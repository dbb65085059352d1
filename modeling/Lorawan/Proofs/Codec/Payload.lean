import Lorawan.Proofs.Codec.Magnitude
import Lorawan.Proofs.Codec.Readings
import Lorawan.Proofs.Codec.RoundTrip

/-!
# Documents of payloads

Whatever the payload, the document it is decoded to is proper: no reading is a number that is no JSON, and
no member stands twice.  A reading's integers have at most six bytes, so each of them is a double exactly;
what it is divided by is at least one (`SensorType.sound`), so the quotient is finite.

* `object_isProper`: the object of readings whose integers are small enough.
* `decode_isProper`: every decoded document is proper.
-/

namespace Lorawan.Cayenne

/-! ## Bytes -/

theorem unsignedOf_concat (bs : List UInt8) (b : UInt8) :
    unsignedOf (bs ++ [b]) = unsignedOf bs * 256 + b.toNat :=
  List.foldl_append

theorem unsignedOf_lt (bs : List UInt8) : unsignedOf bs < 256 ^ bs.length := by
  induction bs using List.reverseRecOn with
  | nil => decide
  | append_singleton bs b ih =>
    have hByte : b.toNat < 256 := b.toNat_lt
    rw [unsignedOf_concat, List.length_append, List.length_singleton, Nat.pow_succ]
    omega

namespace Component

/-- What can be read of six bytes is a whole number that a double holds exactly. -/
theorem natAbs_read_lt {c : Component} {bs : List UInt8} (hWidth : c.width ≤ 6)
    (hLength : bs.length ≤ c.width) : (c.read bs).natAbs < 2 ^ 53 := by
  unfold read
  split_ifs
  · have hLow := (BitVec.ofNat (8 * c.width) (unsignedOf bs)).le_two_mul_toInt
    have hHigh := (BitVec.ofNat (8 * c.width) (unsignedOf bs)).two_mul_toInt_lt
    have hSize : (2 : Int) ^ (8 * c.width) ≤ 2 ^ 48 := by
      exact_mod_cast Nat.pow_le_pow_right (by decide : 0 < 2) (by omega : 8 * c.width ≤ 48)
    omega
  · have hValue := unsignedOf_lt bs
    have hSize : 256 ^ bs.length ≤ 256 ^ 6 := Nat.pow_le_pow_right (by decide) (by omega)
    omega

/-! ## Values -/

/-- What is asked of an integer among the data of a reading: it has at most six bytes, and what it is
divided by is at least one. -/
structure Sound (c : Component) : Prop where
  width_le : c.width ≤ 6
  atLeastOne : ∀ s ∈ c.scale, Magnitude.AtLeastOne (Float.ofNat s).toModel.unpack

theorem value_isProper {c : Component} (hSound : c.Sound) {n : Int} (hn : n.natAbs < 2 ^ 53) :
    (c.value n).IsProper := by
  unfold value
  cases hScale : c.scale with
  | none =>
    have hMin : Int64.minValue.toInt = -2 ^ 63 := rfl
    have hSize : UInt64.size = 2 ^ 64 := rfl
    exact .int (by omega) (by omega)
  | some s => exact .float (Magnitude.isFinite_ofInt_div hn (hSound.atLeastOne s hScale))

end Component

/-- What is asked of the data of a reading: each integer is sound, and integers with names have different
ones. -/
structure Layout.Sound (l : Layout) : Prop where
  components : ∀ c ∈ l.components, c.Sound
  names : ∀ cs, l = .fields cs → (cs.map Prod.fst).Nodup

instance : DecidablePred Component.Sound := fun c =>
  decidable_of_iff (c.width ≤ 6 ∧ ∀ s ∈ c.scale, Magnitude.AtLeastOne (Float.ofNat s).toModel.unpack)
    ⟨fun h => ⟨h.1, h.2⟩, fun h => ⟨h.1, h.2⟩⟩

namespace SensorType

theorem sound (t : SensorType) : t.layout.Sound where
  components := by cases t <;> decide +kernel
  names := by
    intro cs h
    cases t <;> cases h <;> decide

theorem natAbs_readAll_lt (t : SensorType) (data : List UInt8) :
    ∀ n ∈ t.readAll data, n.natAbs < 2 ^ 53 := by
  intro n hn
  obtain ⟨c, hc, rfl⟩ := List.mem_map.mp hn
  exact Component.natAbs_read_lt (t.sound.components c hc).width_le (List.length_take_le _ _)

end SensorType

namespace Reading

theorem map_fst_zipWith_sublist (cs : List (String × Component)) (raw : List Int) :
    ((cs.zipWith (fun (name, c) n => (name, c.value n)) raw).map Prod.fst).Sublist
      (cs.map Prod.fst) := by
  induction cs generalizing raw with
  | nil => exact .slnil
  | cons p cs ih =>
    cases raw with
    | nil => exact List.nil_sublist _
    | cons n raw => exact (ih raw).cons_cons p.1

theorem exists_of_mem_zipWith {cs : List (String × Component)} {raw : List Int} {m : String × Json}
    (h : m ∈ cs.zipWith (fun (name, c) n => (name, c.value n)) raw) :
    ∃ p ∈ cs, ∃ n ∈ raw, m = (p.1, p.2.value n) := by
  rw [← List.map_uncurry_zip_eq_zipWith] at h
  obtain ⟨⟨p, n⟩, hMem, rfl⟩ := List.mem_map.mp h
  exact ⟨p, (List.of_mem_zip hMem).1, n, (List.of_mem_zip hMem).2, rfl⟩

theorem value_isProper {r : Reading} (hRaw : ∀ n ∈ r.raw, n.natAbs < 2 ^ 53) : r.value.IsProper := by
  have hSound := r.type.sound
  unfold value
  cases hLayout : r.type.layout with
  | single c =>
    have hComponent : c.Sound :=
      hSound.components c (by rw [hLayout]; exact List.mem_singleton_self c)
    refine Component.value_isProper hComponent ?_
    cases hFirst : r.raw with
    | nil => decide
    | cons n _ => exact hRaw n (hFirst ▸ List.mem_cons_self)
  | fields cs =>
    refine .object ((hSound.names cs hLayout).sublist (map_fst_zipWith_sublist cs r.raw)) fun m hm => ?_
    obtain ⟨p, hp, n, hn, rfl⟩ := exists_of_mem_zipWith hm
    have hComponent : p.2.Sound :=
      hSound.components p.2 (by rw [hLayout]; exact List.mem_map_of_mem hp)
    exact Component.value_isProper hComponent (hRaw n hn)

end Reading

/-! ## Objects -/

/-- A step of `object` keeps the document proper, so all of them do. -/
theorem object_isProper {readings : List Reading}
    (h : ∀ r ∈ readings, ∀ n ∈ r.raw, n.natAbs < 2 ^ 53) : (object readings).IsProper := by
  have hFold : ∀ members, (Json.object members).IsProper →
      (Json.object (readings.foldl (fun ms r => Json.insertMember ms r.name r.value) members)).IsProper := by
    induction readings with
    | nil => exact fun _ hProper => hProper
    | cons r rest ih =>
      intro members hProper
      have hValue : r.value.IsProper := Reading.value_isProper (h r List.mem_cons_self)
      exact ih (fun r hr => h r (List.mem_cons_of_mem _ hr)) _
        (Json.insertMember_isProper r.name hProper hValue)
  exact hFold [] (.object List.nodup_nil fun _ hm => absurd hm List.not_mem_nil)

theorem natAbs_decodeReadings_lt {payload : List UInt8} {readings : List Reading}
    (h : decodeReadings payload = .ok readings) : ∀ r ∈ readings, ∀ n ∈ r.raw, n.natAbs < 2 ^ 53 := by
  rw [decodeReadings_eq_ok_iff] at h
  induction h with
  | nil => exact fun r hr => absurd hr List.not_mem_nil
  | cons channel t hData hRest ih =>
    exact List.forall_mem_cons.mpr ⟨t.natAbs_readAll_lt _, ih⟩

/-- Every document that a payload is decoded to is proper. -/
theorem decode_isProper {payload : List UInt8} {j : Json} (h : decode payload = .ok j) :
    j.IsProper := by
  unfold decode at h
  cases hReadings : decodeReadings payload with
  | error e => rw [hReadings] at h; cases h
  | ok readings =>
    rw [hReadings] at h
    cases h
    exact object_isProper (natAbs_decodeReadings_lt hReadings)

end Lorawan.Cayenne
