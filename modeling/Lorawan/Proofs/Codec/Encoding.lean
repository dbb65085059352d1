import Lorawan.Proofs.Codec.Payload
import Lorawan.Proofs.Json.Members

/-!
# Payloads from readings

What a device sends is a list of readings one after the other, each of them a channel, the byte of its
type, and as many integers of as many bytes as the type has, the most significant byte first and in two's
complement where they can be negative.  Decoding undoes this for integers within the bounds of their type;
it accepts nothing that is not such a concatenation; and the object it gives has a member for each channel
and type, with the value of the last reading there is of them.

The widths, the bounds and the documents of the types are written out here again, type by type, apart from
the layouts that decoding goes by.

* `decodeReadings_flatMap_encode`: decoding undoes encoding.
* `exists_decodeReadings_iff`: which payloads are decoded.
* `decodes_encoded`: both, with the members of the object.
-/

namespace Lorawan.Cayenne

/-! ## Integers as bytes -/

/-- The last bytes of an integer in two's complement, most significant first. -/
def bigEndian : Nat → Int → List UInt8
  | 0, _ => []
  | width + 1, n => bigEndian width (n / 256) ++ [UInt8.ofNat (n % 256).toNat]

theorem length_bigEndian (width : Nat) (n : Int) : (bigEndian width n).length = width := by
  induction width generalizing n with
  | zero => rfl
  | succ width ih => rw [bigEndian, List.length_append, ih, List.length_singleton]

theorem length_flatMap_bigEndian (width : Nat) (ns : List Int) :
    (ns.flatMap (bigEndian width)).length = ns.length * width := by
  induction ns with
  | nil => exact (Nat.zero_mul width).symm
  | cons n ns ih =>
    rw [List.flatMap_cons, List.length_append, ih, length_bigEndian, List.length_cons, Nat.succ_mul,
      Nat.add_comm]

/-- Of some integers one after the other, each stands at its place. -/
theorem take_drop_flatMap_bigEndian {width : Nat} {ns : List Int} {i : Nat} (h : i < ns.length) :
    ((ns.flatMap (bigEndian width)).drop (i * width)).take width = bigEndian width ns[i] := by
  induction ns generalizing i with
  | nil => cases h
  | cons n ns ih =>
    cases i with
    | zero =>
      rw [Nat.zero_mul, List.drop_zero, List.flatMap_cons, List.take_left' (length_bigEndian width n)]
      rfl
    | succ i =>
      have hNext : (i + 1) * width = (bigEndian width n).length + i * width := by
        rw [length_bigEndian, Nat.succ_mul, Nat.add_comm]
      rw [hNext, List.flatMap_cons, List.drop_length_add_append, ih (Nat.lt_of_succ_lt_succ h)]
      rfl

/-- The last digit to a base of 256, and the digits before it. -/
theorem emod_pow_succ (width : Nat) (n : Int) :
    n % 256 ^ (width + 1) = n / 256 % 256 ^ width * 256 + n % 256 := by
  have hPow : (0 : Int) < 256 ^ width := Int.pow_pos (by decide)
  have hUpper := Int.emod_lt_of_pos (n / 256) hPow
  have hLower := Int.emod_nonneg (n / 256) (Int.ne_of_gt hPow)
  have hDivide := Int.emod_add_mul_ediv (n / 256) (256 ^ width)
  have hSplit : (256 : Int) ^ (width + 1) * (n / 256 / 256 ^ width) =
      256 * (256 ^ width * (n / 256 / 256 ^ width)) := by
    rw [Int.pow_succ, Int.mul_comm (256 ^ width), Int.mul_assoc]
  have hSize : (256 : Int) ^ (width + 1) = 256 ^ width * 256 := Int.pow_succ 256 width
  -- both digits and quotient are determined by what they add up to
  have hUnique := Int.ediv_emod_unique (a := n) (b := 256 ^ (width + 1))
    (r := n / 256 % 256 ^ width * 256 + n % 256) (q := n / 256 / 256 ^ width)
    (Int.pow_pos (by decide))
  exact (hUnique.mpr ⟨by omega, by omega, by omega⟩).2

/-- Read without a sign, the bytes of an integer are what is left of it modulo their number of values. -/
theorem unsignedOf_bigEndian (width : Nat) (n : Int) :
    (unsignedOf (bigEndian width n) : Int) = n % 256 ^ width := by
  induction width generalizing n with
  | zero => rw [Int.pow_zero, Int.emod_one]; rfl
  | succ width ih =>
    have hByte : ((UInt8.ofNat (n % 256).toNat).toNat : Int) = n % 256 := by
      rw [UInt8.toNat_ofNat']
      omega
    rw [bigEndian, unsignedOf_concat, Int.natCast_add, Int.natCast_mul, ih, hByte, emod_pow_succ]
    rfl

namespace Component

/-- The least integer that has a place in the component's bytes. -/
def low (c : Component) : Int := if c.signed then -(256 ^ c.width / 2) else 0

/-- The least integer that is too large for the component's bytes. -/
def high (c : Component) : Int := if c.signed then 256 ^ c.width / 2 else 256 ^ c.width

/-- An integer that has a place is read as it was written. -/
theorem read_bigEndian {c : Component} {n : Int} (hLow : c.low ≤ n) (hHigh : n < c.high) :
    c.read (bigEndian c.width n) = n := by
  have hValue := unsignedOf_bigEndian c.width n
  unfold low at hLow
  unfold high at hHigh
  unfold read
  split_ifs at hLow hHigh ⊢
  · -- in two's complement, the integer is the one within the bounds that has this remainder
    have hSize : ((2 ^ (8 * c.width) : Nat) : Int) = 256 ^ c.width := by
      rw [Nat.pow_mul]
      exact Int.natCast_pow 256 c.width
    calc (BitVec.ofNat (8 * c.width) (unsignedOf (bigEndian c.width n))).toInt
        = (unsignedOf (bigEndian c.width n) : Int).bmod (2 ^ (8 * c.width)) := BitVec.toInt_ofNat _
      _ = (n % (2 ^ (8 * c.width) : Nat)).bmod (2 ^ (8 * c.width)) := by rw [hValue, hSize]
      _ = n.bmod (2 ^ (8 * c.width)) := Int.emod_bmod n _
      _ = n := Int.bmod_eq_of_le (by omega) (by omega)
  · rw [hValue, Int.emod_eq_of_lt hLow hHigh]

end Component

/-! ## Types -/

namespace SensorType

/-- How many integers the data of a type are. -/
def integerCount : SensorType → Nat
  | accelerometer | gyrometer | gps => 3
  | _ => 1

/-- How many bytes each integer of a type has. -/
def integerWidth : SensorType → Nat
  | digitalInput | digitalOutput | presence | humidity => 1
  | gps => 3
  | _ => 2

/-- The least integer of a type and the least that is too large. -/
def bounds : SensorType → Int × Int
  | digitalInput | digitalOutput | presence | humidity => (0, 256)
  | illuminance | barometer => (0, 65536)
  | analogInput | analogOutput | temperature | accelerometer | gyrometer => (-32768, 32768)
  | gps => (-8388608, 8388608)

/-- An integer divided by the scale of its type. -/
def quotient (n : Int) (scale : Nat) : Json := .float (Float.ofInt n / Float.ofNat scale)

/-- The document of some integers of a type. -/
def document : SensorType → List Int → Json
  | digitalInput, [n] | digitalOutput, [n] | presence, [n] | illuminance, [n] => .int n
  | analogInput, [n] | analogOutput, [n] => quotient n 100
  | temperature, [n] | barometer, [n] => quotient n 10
  | humidity, [n] => quotient n 2
  | accelerometer, [x, y, z] =>
    .object [("x", quotient x 1000), ("y", quotient y 1000), ("z", quotient z 1000)]
  | gyrometer, [x, y, z] =>
    .object [("x", quotient x 100), ("y", quotient y 100), ("z", quotient z 100)]
  | gps, [latitude, longitude, altitude] =>
    .object [("latitude", quotient latitude 10000), ("longitude", quotient longitude 10000),
      ("altitude", quotient altitude 100)]
  | _, _ => .null

/-- The integers of a type stand one after the other, with the width and the bounds of the type. -/
theorem component_eq (t : SensorType) : ∀ i (h : i < t.layout.components.length),
    t.layout.components[i].offset = i * t.integerWidth ∧
    t.layout.components[i].width = t.integerWidth ∧
    t.layout.components[i].low = t.bounds.1 ∧ t.layout.components[i].high = t.bounds.2 := by
  cases t <;> decide

theorem width_eq (t : SensorType) : t.width = t.integerCount * t.integerWidth := by cases t <;> rfl

theorem length_components (t : SensorType) : t.layout.components.length = t.integerCount := by
  cases t <;> rfl

/-- Integers that have a place each are read as they were written. -/
theorem readAll_flatMap_bigEndian (t : SensorType) {ns : List Int} (hLength : ns.length = t.integerCount)
    (hNs : ∀ n ∈ ns, t.bounds.1 ≤ n ∧ n < t.bounds.2) :
    t.readAll (ns.flatMap (bigEndian t.integerWidth)) = ns := by
  have hCount : t.layout.components.length = ns.length := by rw [length_components, hLength]
  refine List.ext_getElem ?_ fun i _ hi => ?_
  · rw [readAll, List.length_map, hCount]
  · obtain ⟨hOffset, hWidth, hLow, hHigh⟩ := t.component_eq i (hCount ▸ hi)
    have hBounds := hNs ns[i] (List.getElem_mem hi)
    have hRead : t.layout.components[i].readIn (ns.flatMap (bigEndian t.integerWidth)) = ns[i] := by
      rw [Component.readIn, hOffset, hWidth, take_drop_flatMap_bigEndian hi, ← hWidth]
      exact Component.read_bigEndian (hLow ▸ hBounds.1) (hHigh ▸ hBounds.2)
    simp only [readAll, List.getElem_map, hRead]

end SensorType

/-! ## Readings -/

namespace Reading

/-- Whether a reading has the integers that its type asks for. -/
structure IsValid (r : Reading) : Prop where
  length_eq : r.raw.length = r.type.integerCount
  within : ∀ n ∈ r.raw, r.type.bounds.1 ≤ n ∧ n < r.type.bounds.2

instance (r : Reading) : Decidable r.IsValid :=
  decidable_of_iff (r.raw.length = r.type.integerCount ∧
      ∀ n ∈ r.raw, r.type.bounds.1 ≤ n ∧ n < r.type.bounds.2)
    ⟨fun h => ⟨h.1, h.2⟩, fun h => ⟨h.1, h.2⟩⟩

/-- The bytes of a reading. -/
def encode (r : Reading) : List UInt8 :=
  r.channel :: r.type.code :: r.raw.flatMap (bigEndian r.type.integerWidth)

theorem value_eq_document {r : Reading} (h : r.IsValid) : r.value = r.type.document r.raw := by
  obtain ⟨channel, t, raw⟩ := r
  have hLength : raw.length = t.integerCount := h.length_eq
  cases t
  case accelerometer | gyrometer | gps =>
    obtain ⟨x, y, z, rfl⟩ := List.length_eq_three.mp hLength
    rfl
  all_goals
    obtain ⟨n, rfl⟩ := List.length_eq_one_iff.mp hLength
    rfl

end Reading

/-- Whether some bytes are a reading: a channel, the byte of a type, and as many bytes as the type has. -/
def IsReading (part : List UInt8) : Prop :=
  ∃ (channel : UInt8) (t : SensorType) (data : List UInt8),
    part = channel :: t.code :: data ∧ data.length = t.integerCount * t.integerWidth

/-- Decoding gives the readings that were encoded. -/
theorem decodeReadings_flatMap_encode {readings : List Reading} (h : ∀ r ∈ readings, r.IsValid) :
    decodeReadings (readings.flatMap Reading.encode) = .ok readings := by
  rw [decodeReadings_eq_ok_iff]
  induction readings with
  | nil => exact .nil
  | cons r readings ih =>
    have hFirst : r.IsValid := h r List.mem_cons_self
    have hLength : (r.raw.flatMap (bigEndian r.type.integerWidth)).length = r.type.width := by
      rw [length_flatMap_bigEndian, hFirst.length_eq, r.type.width_eq]
    have hStep := Decodes.cons r.channel r.type hLength (ih fun r hr => h r (List.mem_cons_of_mem _ hr))
    rw [r.type.readAll_flatMap_bigEndian hFirst.length_eq hFirst.within] at hStep
    exact hStep

/-- The payloads that are decoded are the concatenations of readings. -/
theorem exists_decodeReadings_iff {payload : List UInt8} :
    (∃ readings, decodeReadings payload = .ok readings) ↔
      ∃ parts : List (List UInt8), (∀ part ∈ parts, IsReading part) ∧ payload = parts.flatten := by
  simp only [decodeReadings_eq_ok_iff]
  constructor
  · -- each reading is one part
    rintro ⟨readings, h⟩
    induction h with
    | nil => exact ⟨[], fun _ hPart => absurd hPart List.not_mem_nil, rfl⟩
    | @cons channel t data rest readings hData hRest ih =>
      obtain ⟨parts, hParts, rfl⟩ := ih
      exact ⟨(channel :: t.code :: data) :: parts,
        List.forall_mem_cons.mpr ⟨⟨channel, t, data, rfl, hData.trans t.width_eq⟩, hParts⟩, rfl⟩
  · rintro ⟨parts, hParts, rfl⟩
    induction parts with
    | nil => exact ⟨[], .nil⟩
    | cons part parts ih =>
      obtain ⟨hFirst, hLater⟩ := List.forall_mem_cons.mp hParts
      obtain ⟨channel, t, data, rfl, hData⟩ := hFirst
      obtain ⟨readings, hReadings⟩ := ih hLater
      exact ⟨_, .cons channel t (hData.trans t.width_eq.symm) hReadings⟩

/-! ## Objects -/

/-- What a reading is of: a type and a channel. -/
abbrev Source := SensorType × UInt8

/-- What the reading is of. -/
def Reading.source (r : Reading) : Source := (r.type, r.channel)

/-- The name of a source's member in an object. -/
def Source.memberName (s : Source) : String := s.1.label ++ "_" ++ toString s.2.toNat

theorem SensorType.label_injective : Function.Injective SensorType.label := by
  intro t t' h
  cases t <;> cases t' <;> first | rfl | exact absurd h (by decide)

theorem underscore_notMem_digits (n : Nat) : '_' ∉ Nat.toDigits 10 n := by
  intro hMem
  have hDigit : '_'.isDigit = true := Nat.isDigit_of_mem_toDigits (by decide) (by decide) hMem
  exact absurd hDigit (by decide)

/-- A list is taken apart at the last place where an element stands. -/
theorem eq_of_append_cons_eq {a : Char} {front front' back back' : List Char} (hBack : a ∉ back)
    (hBack' : a ∉ back') (h : front ++ a :: back = front' ++ a :: back') :
    front = front' ∧ back = back' := by
  have hMid : ∀ {back back' mid : List Char}, a ∉ back → a :: back = mid ++ a :: back' → mid = [] := by
    intro back back' mid hBack hRest
    cases mid with
    | nil => rfl
    | cons x mid =>
      -- the element would stand in what comes after it
      have hTail : back = mid ++ a :: back' := (List.cons.inj hRest).2
      exact absurd (hTail ▸ List.mem_append_right mid List.mem_cons_self) hBack
  rcases List.append_eq_append_iff.mp h with ⟨mid, rfl, hRest⟩ | ⟨mid, rfl, hRest⟩
  · obtain rfl := hMid hBack hRest
    exact ⟨(List.append_nil _).symm, (List.cons.inj hRest).2⟩
  · obtain rfl := hMid hBack' hRest
    exact ⟨List.append_nil _, (List.cons.inj hRest).2.symm⟩

/-- Two sources have two names: the channel is what stands after the last underscore. -/
theorem Source.memberName_injective : Function.Injective Source.memberName := by
  rintro ⟨t, channel⟩ ⟨t', channel'⟩ h
  have hChars := congrArg String.toList h
  have hUnderscore : "_".toList = ['_'] := rfl
  simp only [memberName, String.toList_append, List.append_assoc, hUnderscore, List.singleton_append,
    Nat.toString_eq_repr, Nat.toList_repr] at hChars
  obtain ⟨hLabel, hDigits⟩ := eq_of_append_cons_eq (underscore_notMem_digits channel.toNat)
    (underscore_notMem_digits channel'.toNat) hChars
  have hType : t = t' := SensorType.label_injective (String.toList_inj.mp hLabel)
  have hChannel : channel.toNat = channel'.toNat := by
    have hNumber := congrArg (Nat.ofDigitChars 10 · 0) hDigits
    simpa only [Nat.ofDigitChars_ten_toDigits] using hNumber
  rw [hType, UInt8.toNat_inj.mp hChannel]

/-- The object of some readings is what comes of setting their members one after the other. -/
theorem object_eq (readings : List Reading) :
    object readings =
      .object (Json.setAll (readings.map fun r => (r.source.memberName, r.value))) := by
  rw [Json.setAll, List.foldl_map]
  rfl

/-- Decoding undoes encoding.  The payloads that are decoded are the concatenations of readings; and the
object of some valid readings has one member for each type and channel, which is named after them, as no
other is, and holds the integers of the last reading of that type and channel, divided by the scale. -/
theorem decodes_encoded {readings : List Reading} (hValid : ∀ r ∈ readings, r.IsValid) :
    (∀ payload, (∃ j, decode payload = .ok j) ↔
      ∃ parts : List (List UInt8), (∀ part ∈ parts, IsReading part) ∧ payload = parts.flatten) ∧
    Function.Injective Source.memberName ∧
    ∃ members, decode (readings.flatMap Reading.encode) = .ok (.object members) ∧
      (members.map Prod.fst).Perm ((readings.map Reading.source).dedup.map Source.memberName) ∧
      ∀ s : Source, members.lookup s.memberName =
        ((readings.filter (·.source = s)).getLast?).map fun r => r.type.document r.raw := by
  refine ⟨fun payload => ?_, Source.memberName_injective, ?_⟩
  -- the document is made of the readings and never fails, so that decoding fails just where reading does
  · rw [← exists_decodeReadings_iff, decode]
    cases decodeReadings payload with
    | error e => simp
    | ok rs => simp
  have hDecode : decode (readings.flatMap Reading.encode) = .ok (object readings) := by
    rw [decode, decodeReadings_flatMap_encode hValid]
    rfl
  rw [object_eq] at hDecode
  refine ⟨_, hDecode, ?_, fun s => ?_⟩
  · -- the names that were set are those of the sources, each once
    have hNames := Json.names_setAll_perm (readings.map fun r => (r.source.memberName, r.value))
    rw [List.map_map] at hNames
    rw [← List.dedup_map_of_injective Source.memberName_injective, List.map_map]
    exact hNames
  · -- a name belongs to one source, so what was set last under it is of the last reading of that source
    have hSame : ∀ r ∈ readings, decide (r.source.memberName = s.memberName) = decide (r.source = s) :=
      fun r _ => decide_eq_decide.mpr Source.memberName_injective.eq_iff
    rw [Json.lookup_setAll, List.filter_map, List.getLast?_map, Option.map_map]
    show ((readings.filter fun r => decide (r.source.memberName = s.memberName)).getLast?).map
      Reading.value = _
    rw [List.filter_congr hSame]
    refine Option.map_congr fun r hLast => ?_
    have hMem : r ∈ readings := (List.mem_filter.mp (List.mem_of_getLast? hLast)).1
    exact Reading.value_eq_document (hValid r hMem)

namespace Sample

/-- Two temperatures of one channel, and a place between them. -/
def readings : List Reading :=
  [⟨3, .temperature, [272]⟩, ⟨1, .gps, [423519, -879094, 1000]⟩, ⟨3, .temperature, [-41]⟩]

/-- The bytes of them. -/
def payload : List UInt8 :=
  [3, 0x67, 0x01, 0x10, 1, 0x88, 0x06, 0x76, 0x5f, 0xf2, 0x96, 0x0a, 0x00, 0x03, 0xe8, 3, 0x67, 0xff, 0xd7]

end Sample

/-- The second temperature is the one that counts. -/
theorem decodes_encoded_sample :
    (∀ r ∈ Sample.readings, r.IsValid) ∧ Sample.readings.flatMap Reading.encode = Sample.payload ∧
      ∃ members, decode Sample.payload = .ok (.object members) ∧
        (members.map Prod.fst).Perm ["gps_1", "temperature_3"] ∧
        members.lookup "temperature_3" = some (SensorType.quotient (-41) 10) := by
  have hValid : ∀ r ∈ Sample.readings, r.IsValid := by decide
  have hBytes : Sample.readings.flatMap Reading.encode = Sample.payload := by decide
  obtain ⟨-, -, members, hDecode, hNames, hLookup⟩ := decodes_encoded hValid
  have hName : Source.memberName (.temperature, 3) = "temperature_3" := by decide
  refine ⟨hValid, hBytes, members, hBytes ▸ hDecode, hNames, ?_⟩
  exact hName ▸ hLookup (.temperature, 3)

end Lorawan.Cayenne
