import Mathlib.Tactic.SplitIfs
import Lorawan.Codec.Cayenne

/-!
# Readings one after the other

A payload is decoded by positions.  What is in front of a position is of no consequence
(`decodeAt?_append`), so that the readings can just as well be taken off the start of a list.  Either a
payload is empty, or there is something wrong at its start, or it starts with a complete reading, after which
it goes on with the rest (`payload_induction`).

* `decodeReadings_nil`, `decodeReadings_lone`, `decodeReadings_unknown`, `decodeReadings_short` and
  `decodeReadings_cons`: what becomes of the payload in each of these cases.
* `decodeReadings_eq_ok_iff`: the readings of a payload, as a relation that inductions go by.
-/

namespace Lorawan.Cayenne

/-! ## Types -/

namespace SensorType

theorem ofCode?_code (t : SensorType) : ofCode? t.code = some t := by cases t <;> rfl

theorem ofCode?_eq_some_iff {b : UInt8} {t : SensorType} : ofCode? b = some t ↔ b = t.code := by
  constructor
  · intro h
    have hCode := List.find?_some (p := fun t : SensorType => t.code = b) h
    exact (of_decide_eq_true hCode).symm
  · rintro rfl
    exact ofCode?_code t

end SensorType

/-! ## Positions -/

theorem slice?_append (front back : List UInt8) (start count : Nat) :
    slice? (front ++ back) (front.length + start) count = slice? back start count := by
  simp only [slice?, List.length_append, Nat.add_assoc, Nat.add_le_add_iff_left,
    List.drop_length_add_append]

theorem readingAt?_append (front back : List UInt8) (offset : Nat) :
    readingAt? (front ++ back) (front.length + offset) = readingAt? back offset := by
  simp only [readingAt?, List.getElem?_append_right, slice?_append, List.length_append, Nat.add_assoc,
    Nat.le_add_right, Nat.add_sub_cancel_left, Nat.add_lt_add_iff_left, Nat.add_sub_add_left]

/-- What is in front of a position is of no consequence. -/
theorem decodeAt?_append (front back : List UInt8) (offset : Nat) :
    decodeAt? (front ++ back) (front.length + offset) = decodeAt? back offset := by
  have hMore : ∀ offset, front.length + offset < (front ++ back).length ↔ offset < back.length := by
    intro offset
    rw [List.length_append, Nat.add_lt_add_iff_left]
  induction offset using decodeAt?.induct back with
  | case1 offset h hNone =>
    rw [decodeAt?, if_pos ((hMore offset).mpr h), readingAt?_append, decodeAt?.eq_def back, if_pos h, hNone]
  | case2 offset h e hError =>
    rw [decodeAt?, if_pos ((hMore offset).mpr h), readingAt?_append, decodeAt?.eq_def back, if_pos h,
      hError]
  | case3 offset h r hReading ih =>
    rw [decodeAt?, if_pos ((hMore offset).mpr h), readingAt?_append, decodeAt?.eq_def back, if_pos h,
      hReading]
    -- the next reading is as far behind the bytes in front in both payloads
    simp only [Nat.add_assoc] at ih ⊢
    rw [ih]
  | case4 offset h =>
    rw [decodeAt?, if_neg (mt (hMore offset).mp h), decodeAt?.eq_def back, if_neg h]

theorem decodeReadings_eq_iff {payload : List UInt8} {r : Except PayloadError (List Reading)} :
    decodeReadings payload = r ↔ decodeAt? payload 0 = some r :=
  ⟨fun h => Option.eq_some_iff_get_eq.mpr ⟨_, h⟩, fun h => Option.get_of_eq_some _ h⟩

/-- The reading at the start of a payload that has a channel and a type. -/
theorem readingAt?_cons_cons (channel code : UInt8) (data : List UInt8) :
    readingAt? (channel :: code :: data) 0 =
      match SensorType.ofCode? code with
      | none => some (.error (.unsupportedType code))
      | some t =>
        if data.length < t.width then some (.error (.insufficientData t.width data.length))
        else some (.ok ⟨channel, t, t.readAll (data.take t.width)⟩) := by
  have hLength : (channel :: code :: data).length = 0 + 2 + data.length := by
    rw [List.length_cons, List.length_cons]
    omega
  rw [readingAt?, if_neg (by omega), hLength]
  simp only [Nat.zero_add, List.getElem?_cons_zero, List.getElem?_cons_succ, Option.bind_eq_bind,
    Option.bind_some, Nat.add_lt_add_iff_left, Nat.add_sub_cancel_left]
  cases SensorType.ofCode? code with
  | none => rfl
  | some t =>
    dsimp only
    split_ifs with hShort
    · rfl
    · have hData : t.width ≤ (data.take t.width).length :=
        Nat.le_of_eq (List.length_take_of_le (Nat.le_of_not_lt hShort)).symm
      have hSlice : slice? (channel :: code :: data) 2 t.width = some (data.take t.width) :=
        if_pos (by omega)
      rw [hSlice, Option.bind_some, SensorType.readAll?_eq_some hData]
      rfl

/-! ## What a payload starts with -/

theorem decodeReadings_nil : decodeReadings [] = .ok [] := by
  rw [decodeReadings_eq_iff, decodeAt?]
  rfl

theorem decodeReadings_of_error {payload : List UInt8} {e : PayloadError} (hPayload : payload ≠ [])
    (h : readingAt? payload 0 = some (.error e)) : decodeReadings payload = .error e := by
  rw [decodeReadings_eq_iff, decodeAt?, if_pos (List.length_pos_iff.mpr hPayload), h]

theorem decodeReadings_lone (channel : UInt8) :
    decodeReadings [channel] = .error (.insufficientData 2 1) :=
  decodeReadings_of_error (List.cons_ne_nil _ _) rfl

theorem decodeReadings_unknown (channel : UInt8) {code : UInt8} (data : List UInt8)
    (hCode : SensorType.ofCode? code = none) :
    decodeReadings (channel :: code :: data) = .error (.unsupportedType code) := by
  refine decodeReadings_of_error (List.cons_ne_nil _ _) ?_
  rw [readingAt?_cons_cons, hCode]

theorem decodeReadings_short (channel : UInt8) {t : SensorType} {data : List UInt8}
    (hData : data.length < t.width) :
    decodeReadings (channel :: t.code :: data) = .error (.insufficientData t.width data.length) := by
  refine decodeReadings_of_error (List.cons_ne_nil _ _) ?_
  rw [readingAt?_cons_cons, SensorType.ofCode?_code]
  exact if_pos hData

/-- Decoding takes one reading off and goes on with the rest. -/
theorem decodeReadings_cons {t : SensorType} {data : List UInt8} (channel : UInt8)
    (hData : data.length = t.width) (rest : List UInt8) :
    decodeReadings (channel :: t.code :: (data ++ rest)) =
      (decodeReadings rest).map (⟨channel, t, t.readAll data⟩ :: ·) := by
  have hEnough : ¬(data ++ rest).length < t.width := by
    rw [List.length_append]
    omega
  have hReading : readingAt? (channel :: t.code :: (data ++ rest)) 0 =
      some (.ok ⟨channel, t, t.readAll data⟩) := by
    rw [readingAt?_cons_cons, SensorType.ofCode?_code]
    dsimp only
    rw [if_neg hEnough, List.take_left' hData]
  -- the rest is decoded where the first reading ends, which is as if that were not there
  have hOffset : 0 + 2 + t.width = (channel :: t.code :: data).length + 0 := by
    rw [List.length_cons, List.length_cons, hData]
    omega
  have hRest : decodeAt? (channel :: t.code :: (data ++ rest)) (0 + 2 + t.width) = decodeAt? rest 0 := by
    rw [hOffset]
    exact decodeAt?_append (channel :: t.code :: data) rest 0
  rw [decodeReadings_eq_iff, decodeAt?, if_pos (List.length_pos_iff.mpr (List.cons_ne_nil _ _)), hReading]
  dsimp only
  rw [hRest, decodeReadings_eq_iff.mp rfl]
  rfl

/-- A payload is empty, or there is something wrong at its start, or it starts with a reading. -/
@[elab_as_elim]
theorem payload_induction {motive : List UInt8 → Prop} (nil : motive [])
    (lone : ∀ channel, motive [channel])
    (unknown : ∀ channel code data, SensorType.ofCode? code = none → motive (channel :: code :: data))
    (short : ∀ channel (t : SensorType) data, data.length < t.width →
      motive (channel :: t.code :: data))
    (cons : ∀ channel (t : SensorType) data rest, data.length = t.width → motive rest →
      motive (channel :: t.code :: (data ++ rest)))
    (payload : List UInt8) : motive payload :=
  match payload with
  | [] => nil
  | [channel] => lone channel
  | channel :: code :: data => by
    cases hType : SensorType.ofCode? code with
    | none => exact unknown channel code data hType
    | some t =>
      obtain rfl := SensorType.ofCode?_eq_some_iff.mp hType
      by_cases hShort : data.length < t.width
      · exact short channel t data hShort
      · have hWidth : (data.take t.width).length = t.width :=
          List.length_take_of_le (Nat.le_of_not_lt hShort)
        rw [← List.take_append_drop t.width data]
        exact cons channel t _ _ hWidth
          (payload_induction nil lone unknown short cons (data.drop t.width))
termination_by payload.length
decreasing_by simp only [List.length_cons, List.length_drop]; omega

/-! ## Readings -/

/-- Whether some readings are those of a payload: none of the empty one, and of any other one for the bytes
at its start, as many as the type says, before those of the rest. -/
inductive Decodes : List UInt8 → List Reading → Prop
  | nil : Decodes [] []
  | cons (channel : UInt8) (t : SensorType) {data rest : List UInt8} {readings : List Reading}
      (hData : data.length = t.width) (hRest : Decodes rest readings) :
      Decodes (channel :: t.code :: (data ++ rest)) (⟨channel, t, t.readAll data⟩ :: readings)

theorem decodes_of_decodeReadings {payload : List UInt8} {readings : List Reading}
    (h : decodeReadings payload = .ok readings) : Decodes payload readings := by
  induction payload using payload_induction generalizing readings with
  | nil =>
    rw [decodeReadings_nil] at h
    cases h
    exact .nil
  | lone channel =>
    rw [decodeReadings_lone] at h
    cases h
  | unknown channel code data hType =>
    rw [decodeReadings_unknown channel data hType] at h
    cases h
  | short channel t data hShort =>
    rw [decodeReadings_short channel hShort] at h
    cases h
  | cons channel t data rest hData ih =>
    rw [decodeReadings_cons channel hData] at h
    cases hRest : decodeReadings rest with
    | error e => rw [hRest] at h; cases h
    | ok readings =>
      rw [hRest] at h
      cases h
      exact .cons channel t hData (ih hRest)

theorem decodeReadings_eq_ok_iff {payload : List UInt8} {readings : List Reading} :
    decodeReadings payload = .ok readings ↔ Decodes payload readings := by
  constructor
  · exact decodes_of_decodeReadings
  · intro h
    induction h with
    | nil => exact decodeReadings_nil
    | cons channel t hData hRest ih =>
      rw [decodeReadings_cons channel hData, ih]
      rfl

end Lorawan.Cayenne
