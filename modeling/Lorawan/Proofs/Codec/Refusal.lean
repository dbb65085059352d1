import Lorawan.Proofs.Codec.Encoding

/-!
# Why a payload is refused

A payload falls into complete readings, as many as there are, and a rest at which the readings stop.  Since
no reading is the start of another one (`IsReading.eq_of_append_eq`), there is only one such split; and
what is reported is what is wrong with the bytes at the start of the rest (`Fault`), whatever comes after
them.

That decoding asks for no byte outside of the payload is because the positions of the integers of a type lie
within its width (`SensorType.offset_add_width_le`), and is shown where decoding is defined
(`decodeAt?_isSome`).

* `IsLongestSplit.unique`, `exists_isSplit_stops`: the split of a payload.
* `reports_first_fault`: all of this, with the error that is reported.
-/

namespace Lorawan.Cayenne

/-! ## Complete readings and a rest -/

/-- Whether a payload consists of some complete readings and a rest. -/
structure IsSplit (payload : List UInt8) (parts : List (List UInt8)) (rest : List UInt8) : Prop where
  readings : ∀ part ∈ parts, IsReading part
  eq : payload = parts.flatten ++ rest

/-- Whether no split of the payload has more complete readings. -/
structure IsLongestSplit (payload : List UInt8) (parts : List (List UInt8)) (rest : List UInt8) : Prop
    extends IsSplit payload parts rest where
  longest : ∀ parts' rest', IsSplit payload parts' rest' → parts'.length ≤ parts.length

/-- No reading is the start of another one: its second byte says how long it is. -/
theorem IsReading.eq_of_append_eq {part part' rest rest' : List UInt8} (h : IsReading part)
    (h' : IsReading part') (hEq : part ++ rest = part' ++ rest') : part = part' ∧ rest = rest' := by
  obtain ⟨channel, t, data, rfl, hData⟩ := h
  obtain ⟨channel', t', data', rfl, hData'⟩ := h'
  simp only [List.cons_append, List.cons.injEq] at hEq
  obtain ⟨rfl, hCode, hTail⟩ := hEq
  obtain rfl : t = t' := by
    have hType := t.ofCode?_code
    rw [hCode, t'.ofCode?_code] at hType
    exact (Option.some.inj hType).symm
  obtain ⟨rfl, rfl⟩ := List.append_inj hTail (hData.trans hData'.symm)
  exact ⟨rfl, rfl⟩

/-- Whether no complete reading stands at the start. -/
def Stops (rest : List UInt8) : Prop := ∀ part more, IsReading part → rest ≠ part ++ more

/-- The readings of any split come first in a split whose rest stops. -/
theorem IsSplit.prefix_of_stops {payload rest rest' : List UInt8} {parts parts' : List (List UInt8)}
    (h : IsSplit payload parts rest) (hStops : Stops rest) (h' : IsSplit payload parts' rest') :
    parts' <+: parts := by
  obtain ⟨hParts, rfl⟩ := h
  obtain ⟨hParts', hEq⟩ := h'
  induction parts' generalizing parts with
  | nil => exact List.nil_prefix
  | cons part' parts' ih =>
    obtain ⟨hFirst', hLater'⟩ := List.forall_mem_cons.mp hParts'
    cases parts with
    | nil => exact absurd (hEq.trans (List.append_assoc ..)) (hStops part' _ hFirst')
    | cons part parts =>
      obtain ⟨hFirst, hLater⟩ := List.forall_mem_cons.mp hParts
      rw [List.flatten_cons, List.flatten_cons, List.append_assoc, List.append_assoc] at hEq
      obtain ⟨rfl, hRest⟩ := hFirst.eq_of_append_eq hFirst' hEq
      exact (List.prefix_cons_inj part).mpr (ih hLater hLater' hRest)

theorem IsSplit.isLongestSplit {payload rest : List UInt8} {parts : List (List UInt8)}
    (h : IsSplit payload parts rest) (hStops : Stops rest) : IsLongestSplit payload parts rest where
  toIsSplit := h
  longest _ _ h' := (h.prefix_of_stops hStops h').length_le

theorem exists_isSplit_stops (payload : List UInt8) :
    ∃ parts rest, IsSplit payload parts rest ∧ Stops rest := by
  by_cases hStops : Stops payload
  · exact ⟨[], payload, ⟨fun _ h => absurd h List.not_mem_nil, rfl⟩, hStops⟩
  · simp only [Stops, not_forall, not_not] at hStops
    obtain ⟨part, more, hReading, hEq⟩ := hStops
    have hShorter : more.length < payload.length := by
      obtain ⟨channel, t, data, rfl, -⟩ := hReading
      rw [hEq]
      simp only [List.length_append, List.length_cons]
      omega
    obtain ⟨parts, rest, h, hStops⟩ := exists_isSplit_stops more
    refine ⟨part :: parts, rest, ⟨List.forall_mem_cons.mpr ⟨hReading, h.readings⟩, ?_⟩, hStops⟩
    rw [hEq, h.eq, List.flatten_cons, List.append_assoc]
termination_by payload.length

theorem IsLongestSplit.stops {payload rest : List UInt8} {parts : List (List UInt8)}
    (h : IsLongestSplit payload parts rest) : Stops rest := by
  rintro part more hReading rfl
  -- with the reading that stands there, there is one more
  have hMore : IsSplit payload (parts ++ [part]) more := by
    refine ⟨List.forall_mem_append.mpr ⟨h.readings, List.forall_mem_singleton.mpr hReading⟩, ?_⟩
    rw [h.eq, List.flatten_append, List.flatten_singleton, List.append_assoc]
  have hLength := h.longest _ _ hMore
  rw [List.length_append, List.length_singleton] at hLength
  omega

/-- A payload has one longest split. -/
theorem IsLongestSplit.unique {payload rest rest' : List UInt8} {parts parts' : List (List UInt8)}
    (h : IsLongestSplit payload parts rest) (h' : IsLongestSplit payload parts' rest') :
    parts' = parts ∧ rest' = rest := by
  have hPrefix := h.prefix_of_stops h.stops h'.toIsSplit
  obtain rfl := hPrefix.eq_of_length_le (h'.longest _ _ h.toIsSplit)
  exact ⟨rfl, List.append_cancel_left (h'.eq.symm.trans h.eq)⟩

/-! ## What is wrong with the rest -/

/-- What is wrong with the bytes at which the readings stop. -/
inductive Fault : List UInt8 → PayloadError → Prop
  /-- A channel without a type. -/
  | lone (channel : UInt8) : Fault [channel] (.insufficientData 2 1)
  /-- A byte that stands for no type, however many bytes follow it. -/
  | unknownType (channel : UInt8) {code : UInt8} (data : List UInt8)
      (hCode : ∀ t : SensorType, t.code ≠ code) :
      Fault (channel :: code :: data) (.unsupportedType code)
  /-- Fewer bytes than the type asks for. -/
  | short (channel : UInt8) {t : SensorType} {data : List UInt8}
      (hData : data.length < t.integerCount * t.integerWidth) :
      Fault (channel :: t.code :: data)
        (.insufficientData (t.integerCount * t.integerWidth) data.length)

theorem SensorType.ofCode?_eq_none_iff {code : UInt8} :
    ofCode? code = none ↔ ∀ t : SensorType, t.code ≠ code := by
  rw [Option.eq_none_iff_forall_ne_some]
  exact forall_congr' fun t => not_congr (ofCode?_eq_some_iff.trans eq_comm)

theorem decodeReadings_of_fault {rest : List UInt8} {e : PayloadError} (h : Fault rest e) :
    decodeReadings rest = .error e := by
  cases h with
  | lone channel => exact decodeReadings_lone channel
  | unknownType channel data hCode =>
    exact decodeReadings_unknown channel data (SensorType.ofCode?_eq_none_iff.mpr hCode)
  | short channel hData =>
    rw [← SensorType.width_eq] at hData ⊢
    exact decodeReadings_short channel hData

/-- Where the readings stop before the end, something is wrong. -/
theorem Stops.exists_fault {rest : List UInt8} (h : Stops rest) (hRest : rest ≠ []) :
    ∃ e, Fault rest e := by
  match rest with
  | [] => exact absurd rfl hRest
  | [channel] => exact ⟨_, .lone channel⟩
  | channel :: code :: data =>
    cases hType : SensorType.ofCode? code with
    | none => exact ⟨_, .unknownType channel data (SensorType.ofCode?_eq_none_iff.mp hType)⟩
    | some t =>
      obtain rfl := SensorType.ofCode?_eq_some_iff.mp hType
      refine ⟨_, .short channel (Nat.lt_of_not_le fun hLong => ?_)⟩
      -- with enough data there would be a reading
      have hReading : IsReading (channel :: t.code :: data.take (t.integerCount * t.integerWidth)) :=
        ⟨channel, t, _, rfl, List.length_take_of_le hLong⟩
      refine h _ (data.drop (t.integerCount * t.integerWidth)) hReading ?_
      rw [List.cons_append, List.cons_append, List.take_append_drop]

/-- What the readings in front come to is of no consequence for the error. -/
theorem decodeReadings_flatten_append_eq_error_iff {parts : List (List UInt8)} {rest : List UInt8}
    {e : PayloadError} (h : ∀ part ∈ parts, IsReading part) :
    decodeReadings (parts.flatten ++ rest) = .error e ↔ decodeReadings rest = .error e := by
  induction parts with
  | nil => rfl
  | cons part parts ih =>
    obtain ⟨⟨channel, t, data, rfl, hData⟩, hLater⟩ := List.forall_mem_cons.mp h
    rw [List.flatten_cons, List.append_assoc, List.cons_append, List.cons_append,
      decodeReadings_cons channel (hData.trans t.width_eq.symm), ← ih hLater]
    cases decodeReadings (parts.flatten ++ rest) with
    | error e' => rfl
    | ok readings => exact iff_of_false nofun nofun

theorem decode_eq_error_iff {payload : List UInt8} {e : PayloadError} :
    decode payload = .error e ↔ decodeReadings payload = .error e := by
  unfold decode
  cases decodeReadings payload with
  | error e' => simp
  | ok readings => exact iff_of_false nofun nofun

/-- What is wrong with the rest of a split is the error of the payload. -/
theorem IsSplit.decode_eq_error {payload rest : List UInt8} {parts : List (List UInt8)}
    {e : PayloadError} (h : IsSplit payload parts rest) (hFault : Fault rest e) :
    decode payload = .error e := by
  rw [decode_eq_error_iff, h.eq, decodeReadings_flatten_append_eq_error_iff h.readings]
  exact decodeReadings_of_fault hFault

/-- A payload is decoded if its longest split leaves no rest. -/
theorem IsSplit.exists_decode_eq_ok {payload : List UInt8} {parts : List (List UInt8)}
    (h : IsSplit payload parts []) : ∃ j, decode payload = .ok j := by
  cases hDecode : decode payload with
  | ok j => exact ⟨j, rfl⟩
  | error e =>
    rw [decode_eq_error_iff, h.eq, decodeReadings_flatten_append_eq_error_iff h.readings,
      decodeReadings_nil] at hDecode
    cases hDecode

theorem IsLongestSplit.decode_eq_error_iff {payload rest : List UInt8} {parts : List (List UInt8)}
    {e : PayloadError} (h : IsLongestSplit payload parts rest) :
    decode payload = .error e ↔ Fault rest e := by
  refine ⟨fun hError => ?_, h.toIsSplit.decode_eq_error⟩
  by_cases hRest : rest = []
  · subst hRest
    obtain ⟨j, hOk⟩ := h.toIsSplit.exists_decode_eq_ok
    rw [hOk] at hError
    cases hError
  · obtain ⟨e', hFault⟩ := h.stops.exists_fault hRest
    rw [h.toIsSplit.decode_eq_error hFault] at hError
    cases hError
    exact hFault

theorem Fault.actual_lt_expected {rest : List UInt8} {expected actual : Nat}
    (h : Fault rest (.insufficientData expected actual)) : actual < expected := by
  cases h with
  | lone => decide
  | short channel hData => exact hData

theorem Fault.append {rest : List UInt8} {code : UInt8} (h : Fault rest (.unsupportedType code))
    (more : List UInt8) : Fault (rest ++ more) (.unsupportedType code) := by
  cases h with
  | unknownType channel data hCode => exact .unknownType channel (data ++ more) hCode

/-- Decoding asks for no byte outside of the payload: each integer of a type lies within the width of the
type, and there is an answer where there would be none if one were asked for.  The payload has one longest
split into complete readings and a rest.  It is decoded if there is no rest, and otherwise the error is what
is wrong with the rest: so what is there is always less than what is expected, and bytes that are added to a
payload with an unknown type change nothing. -/
theorem reports_first_fault (payload : List UInt8) :
    (∀ t : SensorType, ∀ c ∈ t.layout.components, c.offset + c.width ≤ t.width) ∧
    (decodeAt? payload 0).map (Except.map object) = some (decode payload) ∧
    (∃ parts rest, IsLongestSplit payload parts rest ∧
      (∀ parts' rest', IsLongestSplit payload parts' rest' → parts' = parts ∧ rest' = rest) ∧
      ((∃ j, decode payload = .ok j) ↔ rest = []) ∧
      ∀ e, decode payload = .error e ↔ Fault rest e) ∧
    (∀ expected actual, decode payload = .error (.insufficientData expected actual) →
      actual < expected) ∧
    ∀ code, decode payload = .error (.unsupportedType code) →
      ∀ more, decode (payload ++ more) = .error (.unsupportedType code) := by
  obtain ⟨parts, rest, hSplit, hStops⟩ := exists_isSplit_stops payload
  have h : IsLongestSplit payload parts rest := hSplit.isLongestSplit hStops
  have hError : ∀ e, decode payload = .error e ↔ Fault rest e := fun e => h.decode_eq_error_iff
  refine ⟨SensorType.offset_add_width_le, ?_,
    ⟨parts, rest, h, fun _ _ => h.unique, ⟨?_, ?_⟩, hError⟩, ?_, ?_⟩
  · rw [decodeReadings_eq_iff.mp rfl]
    rfl
  · -- where readings stop short of the end there is a fault, and a fault is an error
    rintro ⟨j, hOk⟩
    by_contra hRest
    obtain ⟨e, hFault⟩ := hStops.exists_fault hRest
    rw [(hError e).mpr hFault] at hOk
    cases hOk
  · rintro rfl
    exact hSplit.exists_decode_eq_ok
  · intro expected actual hShort
    exact ((hError _).mp hShort).actual_lt_expected
  · -- bytes behind an unknown type are not looked at
    intro code hUnknown more
    have hMore : IsSplit (payload ++ more) parts (rest ++ more) :=
      ⟨h.readings, by rw [h.eq, List.append_assoc]⟩
    exact hMore.decode_eq_error (((hError _).mp hUnknown).append more)

/-- A reading, and a type without its second byte of data. -/
example : decode [1, 0x68, 0x78, 3, 0x67, 1] = .error (.insufficientData 2 1) := by cbv

end Lorawan.Cayenne
