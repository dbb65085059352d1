import Lorawan.Base64

/-!
# Reading base64 back

A group of three bytes is written as four digits that have no padding among them, so that what is written
after a group is read on its own; only the last group may be short.

* `decodeChars?_group`: a group of three bytes, whatever follows.
* `decodeLast?_one`, `decodeLast?_two`: the last group, which leaves no bits over.
* `decode?_encode`: every byte string is read back as it was written.
-/

namespace Lorawan.Base64

/-! ## Digits -/

theorem value?_getD_alphabet : ∀ k < 64, value? (alphabet.getD k 'A') = some k := by decide +kernel

@[simp] theorem value?_digit (n : Nat) : value? (digit n) = some (n % 64) :=
  value?_getD_alphabet (n % 64) (Nat.mod_lt n (by decide))

theorem digit_ne_pad (n : Nat) : digit n ≠ '=' := by
  intro h
  have hValue := value?_digit n
  rw [h] at hValue
  exact absurd hValue (by simp [show value? '=' = none from by decide])

/-! ## Groups of digits -/

theorem ofNat_eq_of_mod {n : Nat} {b : UInt8} (h : n % 256 = b.toNat) : UInt8.ofNat n = b := by
  apply UInt8.toNat_inj.mp
  rw [UInt8.toNat_ofNat', h]

/-- Two digits and padding stand for one byte, if they have no bits left over. -/
theorem decodeLast?_one (w : Nat) {x : Nat} (h : x % 64 % 16 = 0) :
    decodeLast? (digit w) (digit x) '=' '=' = some [UInt8.ofNat (w % 64 * 4 + x % 64 / 16)] := by
  refine Option.bind_eq_some_iff.mpr ⟨_, value?_digit w, ?_⟩
  refine Option.bind_eq_some_iff.mpr ⟨_, value?_digit x, ?_⟩
  rw [if_pos rfl]
  exact Option.bind_eq_some_iff.mpr ⟨(), if_pos ⟨rfl, h⟩, rfl⟩

/-- Three digits and padding stand for two bytes, if they have no bits left over. -/
theorem decodeLast?_two (w x : Nat) {y : Nat} (h : y % 64 % 4 = 0) :
    decodeLast? (digit w) (digit x) (digit y) '=' =
      some [UInt8.ofNat (w % 64 * 4 + x % 64 / 16), UInt8.ofNat (x % 64 * 16 + y % 64 / 4)] := by
  refine Option.bind_eq_some_iff.mpr ⟨_, value?_digit w, ?_⟩
  refine Option.bind_eq_some_iff.mpr ⟨_, value?_digit x, ?_⟩
  rw [if_neg (digit_ne_pad y)]
  refine Option.bind_eq_some_iff.mpr ⟨_, value?_digit y, ?_⟩
  rw [if_pos rfl]
  exact Option.bind_eq_some_iff.mpr ⟨(), if_pos h, rfl⟩

/-- Four digits stand for three bytes. -/
theorem decodeLast?_three (w x y z : Nat) :
    decodeLast? (digit w) (digit x) (digit y) (digit z) =
      some [UInt8.ofNat (w % 64 * 4 + x % 64 / 16), UInt8.ofNat (x % 64 * 16 + y % 64 / 4),
        UInt8.ofNat (y % 64 * 64 + z % 64)] := by
  refine Option.bind_eq_some_iff.mpr ⟨_, value?_digit w, ?_⟩
  refine Option.bind_eq_some_iff.mpr ⟨_, value?_digit x, ?_⟩
  rw [if_neg (digit_ne_pad y)]
  refine Option.bind_eq_some_iff.mpr ⟨_, value?_digit y, ?_⟩
  rw [if_neg (digit_ne_pad z)]
  exact Option.bind_eq_some_iff.mpr ⟨_, value?_digit z, rfl⟩

/-- Four digits stand for the same three bytes where more digits follow. -/
theorem decodeChars?_digits (w x y z : Nat) (cs : List Char) :
    decodeChars? (digit w :: digit x :: digit y :: digit z :: cs) =
      (decodeChars? cs).map fun bs =>
        UInt8.ofNat (w % 64 * 4 + x % 64 / 16) :: UInt8.ofNat (x % 64 * 16 + y % 64 / 4)
          :: UInt8.ofNat (y % 64 * 64 + z % 64) :: bs := by
  cases cs with
  | nil => exact decodeLast?_three w x y z
  | cons c cs =>
    rw [decodeChars?]
    · simp only [value?_digit, Option.bind_eq_bind, Option.bind_some]
      exact Option.map_eq_bind.symm
    · exact List.cons_ne_nil c cs

/-- What is written for three bytes is read as them, whatever follows. -/
theorem decodeChars?_group (a b c : UInt8) (cs : List Char) :
    decodeChars? (encodeChars [a, b, c] ++ cs) = (decodeChars? cs).map fun bs => a :: b :: c :: bs := by
  have hA := a.toNat_lt
  have hB := b.toNat_lt
  have hC := c.toNat_lt
  simp only [encodeChars, List.cons_append, List.nil_append]
  rw [decodeChars?_digits]
  congr 1
  funext bs
  rw [ofNat_eq_of_mod (b := a) (by omega), ofNat_eq_of_mod (b := b) (by omega),
    ofNat_eq_of_mod (b := c) (by omega)]

theorem decodeChars?_one (a : UInt8) : decodeChars? (encodeChars [a]) = some [a] := by
  have hA := a.toNat_lt
  have hByte : UInt8.ofNat (a.toNat * 16 / 64 % 64 * 4 + a.toNat * 16 % 64 / 16) = a :=
    ofNat_eq_of_mod (by omega)
  have hRead := decodeLast?_one (a.toNat * 16 / 64) (by omega : a.toNat * 16 % 64 % 16 = 0)
  rwa [hByte] at hRead

theorem decodeChars?_two (a b : UInt8) : decodeChars? (encodeChars [a, b]) = some [a, b] := by
  have hA := a.toNat_lt
  have hB := b.toNat_lt
  have hFirst : UInt8.ofNat ((a.toNat * 256 + b.toNat) * 4 / 4096 % 64 * 4 +
      (a.toNat * 256 + b.toNat) * 4 / 64 % 64 / 16) = a := ofNat_eq_of_mod (by omega)
  have hSecond : UInt8.ofNat ((a.toNat * 256 + b.toNat) * 4 / 64 % 64 * 16 +
      (a.toNat * 256 + b.toNat) * 4 % 64 / 4) = b := ofNat_eq_of_mod (by omega)
  have hRead := decodeLast?_two ((a.toNat * 256 + b.toNat) * 4 / 4096) ((a.toNat * 256 + b.toNat) * 4 / 64)
    (by omega : (a.toNat * 256 + b.toNat) * 4 % 64 % 4 = 0)
  rwa [hFirst, hSecond] at hRead

theorem decodeChars?_encodeChars (bs : List UInt8) : decodeChars? (encodeChars bs) = some bs := by
  fun_induction encodeChars bs with
  | case1 => rfl
  | case2 a n => exact decodeChars?_one a
  | case3 a b n => exact decodeChars?_two a b
  | case4 a b c rest n ih =>
    have hGroup := decodeChars?_group a b c (encodeChars rest)
    rw [ih] at hGroup
    exact hGroup

/-- Reading gives back every byte string that was written. -/
@[simp] theorem decode?_encode (bs : List UInt8) : decode? (encode bs) = some bs := by
  rw [decode?, encode, String.toList_ofList, decodeChars?_encodeChars]

end Lorawan.Base64
