import Lorawan.Crypto.Aes

/-!
# Decryption undoes encryption

Each step of a round can be undone: the substitution by the inverse table (`SubBytes.inverse_box`), the
shift of the rows by the shift the other way, the key by itself.  Mixing a column is linear over the
bytes, and doing it twice leaves each byte with four times the sum of itself and the byte two places on
added (`Column.mix_mix`).  That sum is the same two places on, so a second time it goes away again.

* `Block.decrypt_encrypt`, `Block.encrypt_decrypt`: with any round keys, decryption and encryption undo
  each other.
* `Block.encrypt_inj`: so no two blocks are encrypted to the same one.
-/

namespace Lorawan.Crypto

/-! ## Mixing a column -/

namespace Column

theorem xor_left_comm (x y z : UInt8) : x ^^^ (y ^^^ z) = y ^^^ (x ^^^ z) := by
  rw [← UInt8.xor_assoc, UInt8.xor_comm x y, UInt8.xor_assoc]

theorem xor_cancel_left (x y : UInt8) : x ^^^ (x ^^^ y) = y := by
  rw [← UInt8.xor_assoc, UInt8.xor_self, UInt8.zero_xor]

theorem double_eq (x : UInt8) :
    double x = (x <<< 1) ^^^ (if x.toBitVec.msb then 0x1b else 0) := by
  have hTop : x < 0x80 ↔ x.toBitVec.msb = false := by
    rw [BitVec.msb_eq_false_iff_two_mul_lt, UInt8.lt_iff_toNat_lt]
    simp
    omega
  unfold double
  cases h : x.toBitVec.msb with
  | false => rw [if_pos (hTop.mpr h)]; simp
  | true => rw [if_neg (by simp [hTop, h])]; simp

theorem double_xor (x y : UInt8) : double (x ^^^ y) = double x ^^^ double y := by
  rw [double_eq, double_eq, double_eq, UInt8.shiftLeft_xor, UInt8.toBitVec_xor, BitVec.msb_xor]
  -- two reductions cancel, and one stays
  cases x.toBitVec.msb <;> cases y.toBitVec.msb <;>
    simp [UInt8.xor_assoc, UInt8.xor_comm, xor_left_comm]

/-- Four times a byte. -/
def quadruple (x : UInt8) : UInt8 := double (double x)

theorem mix_mix (x : Column) :
    x.mix.mix =
      ⟨quadruple (x.a ^^^ x.c) ^^^ x.a, quadruple (x.b ^^^ x.d) ^^^ x.b,
       quadruple (x.a ^^^ x.c) ^^^ x.c, quadruple (x.b ^^^ x.d) ^^^ x.d⟩ := by
  simp only [mix, quadruple, double_xor, mk.injEq]
  refine ⟨?_, ?_, ?_, ?_⟩ <;>
    simp only [UInt8.xor_assoc, UInt8.xor_comm, xor_left_comm, xor_cancel_left, UInt8.xor_self,
      UInt8.zero_xor]

/-- The sum of two bytes is what it was after the same byte was added to both. -/
theorem xor_xor_xor_cancel (k x y : UInt8) : (k ^^^ x) ^^^ (k ^^^ y) = x ^^^ y := by
  rw [UInt8.xor_comm k x, UInt8.xor_assoc, xor_cancel_left]

theorem unmix_mix (x : Column) : x.mix.unmix = x := by
  show x.mix.mix.mix.mix = x
  rw [mix_mix, mix_mix]
  simp only [xor_xor_xor_cancel, xor_cancel_left]

theorem mix_unmix (x : Column) : x.unmix.mix = x :=
  unmix_mix x

theorem map_cancel {f g : UInt8 → UInt8} (h : ∀ b, g (f b) = b) (x : Column) : (x.map f).map g = x := by
  simp [map, h]

end Column

/-! ## A round -/

namespace Block

theorem mapColumns_cancel {f g : Column → Column} (h : ∀ c, g (f c) = c) (x : Block) :
    (x.mapColumns f).mapColumns g = x := by
  simp [mapColumns, h]

theorem shiftRows_unshiftRows (x : Block) : x.unshiftRows.shiftRows = x := rfl

theorem unround_round (x key : Block) : (x.round key).unround key = x := by
  unfold round unround
  rw [xor_xor_cancel, mapColumns_cancel Column.unmix_mix, unshiftRows_shiftRows,
    mapColumns_cancel (Column.map_cancel SubBytes.inverse_box)]

theorem round_unround (x key : Block) : (x.unround key).round key = x := by
  unfold round unround
  rw [mapColumns_cancel (Column.map_cancel SubBytes.box_inverse), shiftRows_unshiftRows,
    mapColumns_cancel Column.mix_unmix, xor_xor_cancel]

end Block

/-! ## Rounds in a row -/

section Folds

variable {α β : Type} {f : β → α → β} {g : α → β → β}

/-- Steps that are undone one by one, the last one first, are undone. -/
theorem foldr_foldl_cancel (h : ∀ a b, g a (f b a) = b) (as : List α) (b : β) :
    as.foldr g (as.foldl f b) = b := by
  induction as generalizing b with
  | nil => rfl
  | cons a as ih => rw [List.foldl_cons, List.foldr_cons, ih, h]

theorem foldl_foldr_cancel (h : ∀ a b, f (g a b) a = b) (as : List α) (b : β) :
    as.foldl f (as.foldr g b) = b := by
  induction as with
  | nil => rfl
  | cons a as ih => rw [List.foldr_cons, List.foldl_cons, h, ih]

end Folds

namespace Block

theorem decrypt_encrypt (keys : RoundKeys) (x : Block) : (x.encrypt keys).decrypt keys = x := by
  unfold encrypt decrypt
  dsimp only
  rw [xor_xor_cancel, unshiftRows_shiftRows,
    mapColumns_cancel (Column.map_cancel SubBytes.inverse_box),
    foldr_foldl_cancel (f := round) fun key b => unround_round b key, xor_xor_cancel]

theorem encrypt_decrypt (keys : RoundKeys) (x : Block) : (x.decrypt keys).encrypt keys = x := by
  unfold encrypt decrypt
  dsimp only
  rw [xor_xor_cancel, foldl_foldr_cancel (f := round) fun key b => round_unround b key,
    mapColumns_cancel (Column.map_cancel SubBytes.box_inverse), shiftRows_unshiftRows, xor_xor_cancel]

/-- Under one key, different blocks are encrypted to different blocks. -/
theorem encrypt_inj {keys : RoundKeys} {x y : Block} : x.encrypt keys = y.encrypt keys ↔ x = y := by
  constructor
  · intro h
    rw [← decrypt_encrypt keys x, h, decrypt_encrypt]
  · rintro rfl
    rfl

end Block

end Lorawan.Crypto
