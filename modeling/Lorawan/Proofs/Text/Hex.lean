import Mathlib.Tactic.SplitIfs
import Lorawan.Hex

/-!
# What hexadecimal texts stand for

A text can be read as hexadecimal exactly if it consists of an even number of digits, of either case; and
then it stands for the bytes whose written form is the text in lower case.

* `decode?_eq_some_iff`: what a text stands for.
* `exists_writes_iff`: which texts can be read.
-/

namespace Lorawan.Hex

/-! ## Digits -/

/-- Whether a character is a hexadecimal digit, of either case. -/
def IsDigit (c : Char) : Prop := ('0' ≤ c ∧ c ≤ '9') ∨ ('a' ≤ c ∧ c ≤ 'f') ∨ ('A' ≤ c ∧ c ≤ 'F')

instance : DecidablePred IsDigit := fun c =>
  inferInstanceAs (Decidable (('0' ≤ c ∧ c ≤ '9') ∨ ('a' ≤ c ∧ c ≤ 'f') ∨ ('A' ≤ c ∧ c ≤ 'F')))

theorem isSome_value?_iff {c : Char} : (value? c).isSome ↔ IsDigit c := by
  unfold value? IsDigit
  split_ifs <;> simp_all

theorem IsDigit.toNat_lt {c : Char} (h : IsDigit c) : c.toNat < 128 := by
  have hLast : '9'.toNat = 57 ∧ 'f'.toNat = 102 ∧ 'F'.toNat = 70 := by decide
  simp only [IsDigit, Char.le_def, UInt32.le_iff_toNat_le, Char.toNat_val] at h
  omega

theorem digit_injective : Function.Injective digit := by
  intro n m h
  exact Option.some.inj ((value?_digit n).symm.trans (h ▸ value?_digit m))

/-- The digits are among the first 128 characters, so that there are no more to go through. -/
theorem toLower_eq_digit_of_lt : ∀ k : Fin 128, ∀ n, value? (Char.ofNat k) = some n →
    (Char.ofNat k).toLower = digit n := by
  decide

theorem value?_eq_some_iff {c : Char} {n : Fin 16} :
    value? c = some n ↔ IsDigit c ∧ c.toLower = digit n := by
  have hLower : ∀ m, value? c = some m → c.toLower = digit m := by
    intro m hm
    have hSmall : c.toNat < 128 := (isSome_value?_iff.mp (Option.isSome_of_eq_some hm)).toNat_lt
    have hCode := toLower_eq_digit_of_lt ⟨c.toNat, hSmall⟩ m
    rw [Char.ofNat_toNat] at hCode
    exact hCode hm
  constructor
  · intro h
    exact ⟨isSome_value?_iff.mp (Option.isSome_of_eq_some h), hLower n h⟩
  · rintro ⟨hDigit, hEq⟩
    obtain ⟨m, hm⟩ := Option.isSome_iff_exists.mp (isSome_value?_iff.mpr hDigit)
    rw [hm, digit_injective ((hLower m hm).symm.trans hEq)]

/-! ## Texts -/

theorem high_byte (h l : Fin 16) : high (byte h l) = h := by revert h l; decide

theorem low_byte (h l : Fin 16) : low (byte h l) = l := by revert h l; decide

theorem length_encodeChars (bs : List UInt8) : (encodeChars bs).length = 2 * bs.length := by
  induction bs with
  | nil => rfl
  | cons b bs ih =>
    rw [encodeChars, List.length_cons, List.length_cons, ih, List.length_cons]
    omega

/-- Two digits stand for the byte with their values as nibbles. -/
theorem decodeChars?_cons_eq_some_iff {h l : Char} {cs : List Char} {bs : List UInt8} :
    decodeChars? (h :: l :: cs) = some bs ↔ ∃ m n rest, value? h = some m ∧ value? l = some n ∧
      decodeChars? cs = some rest ∧ bs = byte m n :: rest := by
  simp only [decodeChars?, Option.bind_eq_bind, Option.bind_eq_some_iff, Option.pure_def,
    Option.some.injEq, eq_comm (a := bs)]
  grind

theorem decodeChars?_eq_some_iff {cs : List Char} {bs : List UInt8} :
    decodeChars? cs = some bs ↔ (∀ c ∈ cs, IsDigit c) ∧ cs.map Char.toLower = encodeChars bs := by
  -- the digits are read two by two, and each pair settles the first byte
  induction cs using decodeChars?.induct generalizing bs with
  | case1 =>
    cases bs <;> simp [decodeChars?, encodeChars]
  | case2 c =>
    cases bs <;> simp [decodeChars?, encodeChars]
  | case3 h l cs ih =>
    rw [decodeChars?_cons_eq_some_iff, List.forall_mem_cons, List.forall_mem_cons]
    simp only [value?_eq_some_iff, ih]
    constructor
    · rintro ⟨m, n, rest, ⟨hm, hmEq⟩, ⟨hn, hnEq⟩, ⟨hRest, hEq⟩, rfl⟩
      refine ⟨⟨hm, hn, hRest⟩, ?_⟩
      rw [List.map_cons, List.map_cons, hmEq, hnEq, hEq, encodeChars, high_byte, low_byte]
    · rintro ⟨⟨hm, hn, hRest⟩, hEq⟩
      cases bs with
      | nil => cases hEq
      | cons b rest =>
        rw [encodeChars, List.map_cons, List.map_cons, List.cons.injEq, List.cons.injEq] at hEq
        exact ⟨high b, low b, rest, ⟨hm, hEq.1⟩, ⟨hn, hEq.2.1⟩, ⟨hRest, hEq.2.2⟩,
          by rw [byte_high_low]⟩

/-- Whether a text writes some bytes in hexadecimal digits, of either case. -/
def Writes (s : String) (bs : List UInt8) : Prop :=
  (∀ c ∈ s.toList, IsDigit c) ∧ s.toList.map Char.toLower = encodeChars bs

theorem decode?_eq_some_iff {s : String} {bs : List UInt8} : decode? s = some bs ↔ Writes s bs :=
  decodeChars?_eq_some_iff

theorem Writes.length_eq {s : String} {bs : List UInt8} (h : Writes s bs) : s.length = 2 * bs.length := by
  rw [← String.length_toList, ← length_encodeChars, ← h.2, List.length_map]

theorem exists_decodeChars?_iff {cs : List Char} :
    (∃ bs, decodeChars? cs = some bs) ↔ (∀ c ∈ cs, IsDigit c) ∧ cs.length % 2 = 0 := by
  induction cs using decodeChars?.induct with
  | case1 => simp [decodeChars?]
  | case2 c => simp [decodeChars?]
  | case3 h l cs ih =>
    have hLength : (h :: l :: cs).length % 2 = cs.length % 2 := by
      rw [List.length_cons, List.length_cons]
      omega
    rw [hLength, List.forall_mem_cons, List.forall_mem_cons, and_assoc, and_assoc, ← ih]
    simp only [decodeChars?_cons_eq_some_iff, ← isSome_value?_iff, Option.isSome_iff_exists]
    grind

/-- The texts that can be read are those of an even number of digits. -/
theorem exists_writes_iff {s : String} :
    (∃ bs, Writes s bs) ↔ (∀ c ∈ s.toList, IsDigit c) ∧ s.length % 2 = 0 := by
  simp only [← decode?_eq_some_iff, decode?, exists_decodeChars?_iff, String.length_toList]

end Lorawan.Hex
