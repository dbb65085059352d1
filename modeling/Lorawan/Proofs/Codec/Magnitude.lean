import Mathlib.Data.Nat.Log
import Mathlib.Tactic.Positivity

/-!
# Doubles below a power of two

A quotient of doubles need not be finite, and only finite doubles are JSON.  The exponent of the power of
two that a double stays below is followed here through rounding, packing and arithmetic: rounding adds at
most one to it, a product adds the exponents of its factors, and division by at least one keeps it.  Only
bounds from above are needed, so no rounding is shown to be to nearest.

* `isFinite_ofInt_div`: a whole number of at most 53 bits, divided by a double of at least one, is finite.
-/

open Float.Model Float.Model.UnpackedFloat

namespace Lorawan.Magnitude

/-- Whether a double is finite and below a power of two, its sign apart. -/
def Below (bound : Int) : UnpackedFloat → Prop
  | .zero _ => True
  | .finite _ m e _ => totalExponent m e ≤ bound
  | .infinity _ | .notANumber => False

/-- Whether a double is finite and at least one, its sign apart. -/
def AtLeastOne : UnpackedFloat → Prop
  | .finite _ m e _ => 1 ≤ totalExponent m e
  | .zero _ | .infinity _ | .notANumber => False

instance (bound : Int) : DecidablePred (Below bound)
  | .zero _ => inferInstanceAs (Decidable True)
  | .finite _ m e _ => inferInstanceAs (Decidable (totalExponent m e ≤ bound))
  | .infinity _ | .notANumber => inferInstanceAs (Decidable False)

instance : DecidablePred AtLeastOne
  | .finite _ m e _ => inferInstanceAs (Decidable (1 ≤ totalExponent m e))
  | .zero _ | .infinity _ | .notANumber => inferInstanceAs (Decidable False)

theorem Below.isFinite {bound : Int} {u : UnpackedFloat} (h : Below bound u) : u.isFinite = true := by
  cases u with
  | zero => rfl
  | finite => rfl
  | infinity => exact h.elim
  | notANumber => exact h.elim

/-! ## Mantissas and exponents -/

/-- A total exponent is bounded when the mantissa fits in what the bound leaves above the exponent. -/
theorem totalExponent_le_iff {m : Nat} {e bound : Int} :
    totalExponent m e ≤ bound ↔ ∃ k : Nat, bound = e + k + 1 ∧ m < 2 ^ (k + 1) := by
  unfold totalExponent
  constructor
  · intro h
    refine ⟨(bound - e - 1).toNat, by omega, ?_⟩
    have hm : m < 2 ^ (m.log2 + 1) := Nat.lt_log2_self
    exact hm.trans_le (Nat.pow_le_pow_right (by decide) (by omega))
  · rintro ⟨k, rfl, hm⟩
    have hLog : m.log2 ≤ k := by
      rcases Nat.eq_zero_or_pos m with rfl | hPos
      · exact Nat.zero_le k
      · exact Nat.lt_succ_iff.mp ((Nat.log2_lt hPos.ne').mpr hm)
    omega

/-- A mantissa that grows by one adds at most one to the total exponent. -/
theorem totalExponent_le_add_one {m m' : Nat} {e bound : Int} (h : totalExponent m e ≤ bound)
    (hStep : m' ≤ m + 1) : totalExponent m' e ≤ bound + 1 := by
  obtain ⟨k, rfl, hm⟩ := totalExponent_le_iff.mp h
  refine totalExponent_le_iff.mpr ⟨k + 1, by push_cast; omega, ?_⟩
  rw [Nat.pow_succ]
  omega

/-- Zeros put behind a mantissa are made good by the exponent. -/
theorem totalExponent_shiftLeft {m : Nat} {e bound : Int} (h : totalExponent m e ≤ bound) (n : Nat) :
    totalExponent (m <<< n) (e - n) ≤ bound := by
  obtain ⟨k, rfl, hm⟩ := totalExponent_le_iff.mp h
  refine totalExponent_le_iff.mpr ⟨k + n, by push_cast; omega, ?_⟩
  calc m <<< n = m * 2 ^ n := Nat.shiftLeft_eq m n
    _ < 2 ^ (k + 1) * 2 ^ n := Nat.mul_lt_mul_of_pos_right hm (by positivity)
    _ = 2 ^ (k + n + 1) := by rw [← Nat.pow_add]; congr 1; omega

theorem totalExponent_mul {m m' : Nat} {e e' bound bound' : Int} (h : totalExponent m e ≤ bound)
    (h' : totalExponent m' e' ≤ bound') : totalExponent (m * m') (e + e') ≤ bound + bound' := by
  obtain ⟨k, rfl, hm⟩ := totalExponent_le_iff.mp h
  obtain ⟨k', rfl, hm'⟩ := totalExponent_le_iff.mp h'
  refine totalExponent_le_iff.mpr ⟨k + k' + 1, by push_cast; omega, ?_⟩
  calc m * m' < 2 ^ (k + 1) * 2 ^ (k' + 1) := Nat.mul_lt_mul'' hm hm'
    _ = 2 ^ (k + k' + 1 + 1) := by rw [← Nat.pow_add]; congr 1; omega

/-! ## Rounding -/

theorem mantissa_shiftRight (em : ExtendedMantissa) (n : Nat) :
    (em >>> n).mantissa = em.mantissa / 2 ^ n := by
  change (n.repeat ExtendedMantissa.shiftRightOne em).mantissa = em.mantissa / 2 ^ n
  induction n with
  | zero => exact (Nat.div_one em.mantissa).symm
  | succ n ih =>
    rw [Nat.pow_succ, ← Nat.div_div_eq_div_mul, ← ih]
    rfl

theorem mantissa_ofMantissaAndAccuracy (m : Nat) (accuracy : Accuracy) :
    (ExtendedMantissa.ofMantissaAndAccuracy m accuracy).mantissa = m := by
  rcases accuracy with _ | (_ | _ | _) <;> rfl

theorem roundedMantissa_le (em : ExtendedMantissa) : em.roundedMantissa ≤ em.mantissa + 1 := by
  obtain ⟨m, r, s⟩ := em
  cases r <;> cases s <;>
    simp only [ExtendedMantissa.roundedMantissa, ExtendedMantissa.accuracy,
      Accuracy.roundToNearestEven] <;> omega

/-- Dropping digits down to those of the format does not make a double larger. -/
theorem totalExponent_shiftToTargetExponent {m : Nat} {e bound : Int} (accuracy : Accuracy)
    (hBound : 0 ≤ bound) (h : totalExponent m e ≤ bound) :
    totalExponent (shiftToTargetExponent Format.binary64 m e accuracy).1.mantissa
      (shiftToTargetExponent Format.binary64 m e accuracy).2 ≤ bound := by
  unfold shiftToTargetExponent shiftToExponent
  simp only [mantissa_shiftRight, mantissa_ofMantissaAndAccuracy]
  -- the format's exponent leaves the bound above it, so no more digits go than the bound has
  have hTarget : Format.binary64.targetExponent (totalExponent m e) ≤ bound - 1 := by
    have hMin : Format.binary64.minExponent = -1074 := rfl
    have hBits : Format.binary64.mantissaBits = 53 := rfl
    rw [Format.targetExponent, hMin, hBits]
    omega
  generalize hn : (Format.binary64.targetExponent (totalExponent m e) - e).toNat = n
  obtain ⟨k, rfl, hm⟩ := totalExponent_le_iff.mp h
  have hnk : n ≤ k := by omega
  refine totalExponent_le_iff.mpr ⟨k - n, by omega, ?_⟩
  refine Nat.div_lt_of_lt_mul ?_
  rw [← Nat.pow_add]
  have hSum : n + (k - n + 1) = k + 1 := by omega
  rwa [hSum]

/-- A double is below a bound that its digits are below; without digits it is zero. -/
theorem below_dite {sign : Sign} {m : Nat} {e bound : Int} (h : totalExponent m e ≤ bound) :
    Below bound (if hZero : m = 0 then .zero sign
      else .finite sign m e (Nat.pos_of_ne_zero hZero)) := by
  by_cases hZero : m = 0
  · rw [dif_pos hZero]
    trivial
  · rw [dif_neg hZero]
    exact h

theorem below_roundWithAccuracy {m : Nat} {e bound : Int} (sign : Sign) (accuracy : Accuracy)
    (hBound : 0 ≤ bound) (h : totalExponent m e ≤ bound) :
    Below (bound + 1) (roundWithAccuracy Format.binary64 sign m e accuracy) := by
  -- rounding up can give a digit too many, which a second shift drops
  have hFirst := totalExponent_shiftToTargetExponent accuracy hBound h
  have hRounded := totalExponent_le_add_one hFirst (roundedMantissa_le _)
  have hSecond := totalExponent_shiftToTargetExponent .exact (by omega) hRounded
  exact below_dite hSecond

theorem below_round {m : Nat} {e bound : Int} (sign : Sign) (hBound : 0 ≤ bound)
    (h : totalExponent m e ≤ bound) : Below (bound + 1) (round Format.binary64 sign m e) :=
  below_roundWithAccuracy sign .exact hBound (totalExponent_shiftLeft h _)

/-! ## Packing -/

/-- What some bits stand for is finite unless those of the exponent are all set. -/
theorem below_unpack {bound : Int} {b : BitVec Format.binary64.numBits} {exponent : BitVec 11}
    (hExponent : unpackExponent b = exponent) (hFinite : exponent.toNat < 2047) (hBound : 0 ≤ bound)
    (h : (exponent.toNat : Int) - 1022 ≤ bound) :
    Below bound (UnpackedFloat.unpack Format.binary64 b) := by
  have hBias : Format.binary64.exponentBias = 1023 := rfl
  have hNotOnes : exponent ≠ -1#11 := by
    rintro rfl
    exact absurd hFinite (by decide)
  have hWidth : Format.binary64.mantissaBitsWithoutImplicit = 52 := rfl
  have hMantissa : (unpackMantissa b).toNat < 2 ^ 52 := (unpackMantissa b).isLt
  have hImplicit : (1#1 ++ unpackMantissa b).toNat < 2 ^ 53 := (1#1 ++ unpackMantissa b).isLt
  unfold UnpackedFloat.unpack
  subst hExponent
  rw [if_neg hNotOnes]
  by_cases hZero : unpackExponent b = 0#11
  · rw [if_pos hZero]
    by_cases hNothing : unpackMantissa b = 0#52
    · rw [dif_pos hNothing]
      trivial
    · -- a subnormal double has the least exponent
      rw [dif_neg hNothing]
      have hNoExponent : (unpackExponent b).toNat = 0 := by rw [hZero]; rfl
      refine totalExponent_le_iff.mpr ⟨(bound + 1073).toNat, by omega, ?_⟩
      exact hMantissa.trans_le (Nat.pow_le_pow_right (by decide) (by omega))
  · -- a normal double has a first digit that is not among its bits
    rw [if_neg hZero]
    refine totalExponent_le_iff.mpr ⟨(bound + 1074 - (unpackExponent b).toNat).toNat, by omega, ?_⟩
    exact hImplicit.trans_le (Nat.pow_le_pow_right (by decide) (by omega))

/-- Packing keeps a double that is far enough below what the format can hold: only from an exponent of 972
on is it packed as infinity. -/
theorem below_unpack_pack {bound : Int} {u : UnpackedFloat} (hBound : 0 ≤ bound) (hMax : bound ≤ 972)
    (h : Below bound u) : Below bound (Float.Model.pack u).unpack := by
  change Below bound (UnpackedFloat.unpack Format.binary64 (UnpackedFloat.pack Format.binary64 u))
  have hNoExponent : ((0#11).toNat : Int) - 1022 ≤ bound := by
    change (0 : Int) - 1022 ≤ bound
    omega
  cases u with
  | zero sign => exact below_unpack unpackExponent_packComponents (by decide) hBound hNoExponent
  | infinity => exact h.elim
  | notANumber => exact h.elim
  | finite sign m e hPos =>
    have hTotal : (m.log2 : Int) + 1 + e ≤ bound := h
    have hBits : Format.binary64.mantissaBits = 53 := rfl
    generalize hBiased : (e + (1023 : Nat) + (52 : Nat)).toNat = biased
    have hFits : ¬2 ^ 11 ≤ biased + 1 := by omega
    have hPack : UnpackedFloat.pack Format.binary64 (.finite sign m e hPos) =
        if m.log2 + 1 = Format.binary64.mantissaBits then
          packComponents Format.binary64 sign (BitVec.ofNat 11 biased) (BitVec.ofNat 52 m)
        else packComponents Format.binary64 sign 0#11 (BitVec.ofNat 52 m) := by
      rw [← hBiased] at hFits ⊢
      exact if_neg hFits
    rw [hPack]
    -- with all its digits a double keeps its exponent, with fewer it has the least one
    split
    case isTrue hNormal =>
      have hStored : (BitVec.ofNat 11 biased).toNat = biased := by
        rw [BitVec.toNat_ofNat, Nat.mod_eq_of_lt (by omega)]
      exact below_unpack unpackExponent_packComponents (by omega) hBound (by omega)
    case isFalse =>
      exact below_unpack unpackExponent_packComponents (by decide) hBound hNoExponent

/-! ## Arithmetic -/

variable {bound bound' : Int} {u v : UnpackedFloat}

theorem Below.neg (h : Below bound u) : Below bound u.neg := by
  cases u with
  | zero => trivial
  | finite => exact h
  | infinity => exact h.elim
  | notANumber => exact h.elim

theorem Below.mul (hBound : 0 ≤ bound + bound') (h : Below bound u) (h' : Below bound' v) :
    Below (bound + bound' + 1) (UnpackedFloat.mul Format.binary64 u v) := by
  cases u with
  | infinity => exact h.elim
  | notANumber => exact h.elim
  | zero => cases v with
    | infinity => exact h'.elim
    | notANumber => exact h'.elim
    | zero => trivial
    | finite => trivial
  | finite => cases v with
    | infinity => exact h'.elim
    | notANumber => exact h'.elim
    | zero => trivial
    | finite => exact below_roundWithAccuracy _ _ hBound (totalExponent_mul h h')

/-- The digits of a quotient by at least one do not reach above those of the dividend. -/
theorem totalExponent_divCore {m m' : Nat} {e e' : Int} (hBound : 0 ≤ bound)
    (h : totalExponent m e ≤ bound) (hPos : 0 < m') (hOne : 1 ≤ totalExponent m' e') :
    totalExponent (divCore Format.binary64 m e m' e').1 (divCore Format.binary64 m e m' e').2.1
      ≤ bound := by
  have hMin : Format.binary64.minExponent = -1074 := rfl
  have hBits : Format.binary64.mantissaBits = 53 := rfl
  unfold divCore
  simp only [Format.targetExponent, hMin, hBits]
  generalize hTarget : min (e - e') (max (totalExponent m e - totalExponent m' e' - (53 : Nat)) (-1074))
    = target
  obtain ⟨k, hk, hm⟩ := totalExponent_le_iff.mp h
  refine totalExponent_le_iff.mpr ⟨(bound - target - 1).toNat, by omega, ?_⟩
  -- the divisor has at least as many digits as its exponent is below zero
  have hDivisor : 2 ^ m'.log2 ≤ m' := Nat.log2_self_le hPos.ne'
  unfold totalExponent at hOne
  refine Nat.div_lt_of_lt_mul ?_
  calc m <<< (e - e' - target).toNat
      = m * 2 ^ (e - e' - target).toNat := Nat.shiftLeft_eq _ _
    _ < 2 ^ (k + 1) * 2 ^ (e - e' - target).toNat :=
        Nat.mul_lt_mul_of_pos_right hm (by positivity)
    _ = 2 ^ (k + 1 + (e - e' - target).toNat) := (Nat.pow_add _ _ _).symm
    _ ≤ 2 ^ (m'.log2 + ((bound - target - 1).toNat + 1)) :=
        Nat.pow_le_pow_right (by decide) (by omega)
    _ = 2 ^ m'.log2 * 2 ^ ((bound - target - 1).toNat + 1) := Nat.pow_add _ _ _
    _ ≤ m' * 2 ^ ((bound - target - 1).toNat + 1) := Nat.mul_le_mul_right _ hDivisor

theorem Below.div (hBound : 0 ≤ bound) (h : Below bound u) (hOne : AtLeastOne v) :
    Below (bound + 1) (UnpackedFloat.div Format.binary64 u v) := by
  cases v with
  | infinity => exact hOne.elim
  | notANumber => exact hOne.elim
  | zero => exact hOne.elim
  | finite _ _ _ hPos => cases u with
    | infinity => exact h.elim
    | notANumber => exact h.elim
    | zero => trivial
    | finite => exact below_roundWithAccuracy _ _ hBound (totalExponent_divCore hBound h hPos hOne)

/-! ## Whole numbers -/

theorem below_ofInt {n : Int} (h : n.natAbs < 2 ^ 53) :
    Below 54 (UnpackedFloat.ofInt Format.binary64 n) := by
  have hTotal : totalExponent n.natAbs 0 ≤ 53 := totalExponent_le_iff.mpr ⟨52, rfl, h⟩
  unfold UnpackedFloat.ofInt UnpackedFloat.normalize
  split
  case h_1 hNegative =>
    have hAbs : (-n).toNat = n.natAbs := by
      have := Int.compare_eq_lt.mp hNegative
      omega
    exact below_round .negative (by decide) (hAbs ▸ hTotal)
  case h_2 => trivial
  case h_3 hPositive =>
    have hAbs : n.toNat = n.natAbs := by
      have := Int.compare_eq_gt.mp hPositive
      omega
    exact below_round .positive (by decide) (hAbs ▸ hTotal)

theorem below_float_ofNat {n : Nat} (h : n < 2 ^ 53) : Below 56 (Float.ofNat n).toModel.unpack := by
  -- the digits are rounded, and then multiplied by ten to the power of zero
  have hWord : n.toUInt64.toNat = n := UInt64.toNat_ofNat_of_lt' (h.trans (by decide))
  have hDigits : Below 54 n.toUInt64.toFloat.toModel.unpack :=
    below_unpack_pack (by decide) (by decide) (below_ofInt (by rwa [hWord]))
  have hOne : Below 1 (Float.ofBits 0x3FF0000000000000).toModel.unpack := by decide +kernel
  have hProduct : Float.ofNat n = n.toUInt64.toFloat * Float.ofBits 0x3FF0000000000000 :=
    dif_pos ⟨h, by decide⟩
  rw [hProduct]
  exact below_unpack_pack (by decide) (by decide) (hDigits.mul (by decide) hOne)

theorem below_float_ofInt {n : Int} (h : n.natAbs < 2 ^ 53) :
    Below 56 (Float.ofInt n).toModel.unpack := by
  cases n with
  | ofNat n => exact below_float_ofNat h
  | negSucc n => exact below_unpack_pack (by decide) (by decide) (below_float_ofNat h).neg

/-- A whole number of at most 53 bits, divided by a double of at least one, is finite. -/
theorem isFinite_ofInt_div {n : Int} {x : Float} (hn : n.natAbs < 2 ^ 53)
    (hx : AtLeastOne x.toModel.unpack) : (Float.ofInt n / x).isFinite = true :=
  (below_unpack_pack (by decide) (by decide) ((below_float_ofInt hn).div (by decide) hx)).isFinite

end Lorawan.Magnitude
