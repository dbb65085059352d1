import Lorawan.Json.Numeral

/-!
# Reading digits back

What is written in decimal digits is read as the same number.

* `ofDigits_toDigits`: a number.
* `Json.Numeral.Denotes.value?`: an integer of 64 bits, with a sign or without, as a numeral of JSON.
* `Json.Numeral.Denotes.eq_of_value?`: a larger one is at least not read as another integer.
-/

namespace Lorawan

namespace Decimal

theorem digit?_of_isDigit {c : Char} (h : c.isDigit = true) : digit? c = some (c.toNat - 48) := by
  rw [Char.isDigit, Bool.and_eq_true, decide_eq_true_eq, decide_eq_true_eq] at h
  exact if_pos h

theorem isSome_digit? (c : Char) : (digit? c).isSome = c.isDigit := by
  rw [Bool.eq_iff_iff, Char.isDigit, Bool.and_eq_true, decide_eq_true_eq, decide_eq_true_eq]
  unfold digit?
  split
  · exact iff_of_true rfl ‹_›
  · exact iff_of_false (by decide) ‹_›

/-- All of some digits have a value. -/
theorem filterMap_digit? {cs : List Char} (h : ∀ c ∈ cs, c.isDigit = true) :
    cs.filterMap digit? = cs.map fun c => c.toNat - 48 := by
  induction cs with
  | nil => rfl
  | cons c cs ih =>
    obtain ⟨hFirst, hLater⟩ := List.forall_mem_cons.mp h
    rw [List.filterMap_cons_some (digit?_of_isDigit hFirst), ih hLater, List.map_cons]

theorem foldl_digits (m : Nat) (cs : List Char) :
    (cs.map fun c => c.toNat - 48).foldl (fun n d => n * 10 + d) m = Nat.ofDigitChars 10 cs m := by
  induction cs generalizing m with
  | nil => rfl
  | cons c cs ih =>
    rw [List.map_cons, List.foldl_cons, ih, Nat.ofDigitChars_cons, Nat.mul_comm]
    rfl

theorem ofDigits_filterMap {cs : List Char} (h : ∀ c ∈ cs, c.isDigit = true) :
    ofDigits (cs.filterMap digit?) = Nat.ofDigitChars 10 cs 0 := by
  rw [filterMap_digit? h, ofDigits, foldl_digits]

theorem isDigit_of_mem_toDigits {n : Nat} : ∀ c ∈ Nat.toDigits 10 n, c.isDigit = true :=
  fun _ hc => Nat.isDigit_of_mem_toDigits (by decide) (by decide) hc

/-- A number is what its digits stand for. -/
theorem ofDigits_toDigits (n : Nat) : ofDigits ((Nat.toDigits 10 n).filterMap digit?) = n := by
  rw [ofDigits_filterMap isDigit_of_mem_toDigits, Nat.ofDigitChars_ten_toDigits]

end Decimal

namespace Json

theorem le_foldl_digits (m : Nat) (ds : List Nat) : m ≤ ds.foldl (fun n d => n * 10 + d) m := by
  induction ds generalizing m with
  | nil => exact Nat.le_refl m
  | cons d ds ih =>
    have hRest := ih (m * 10 + d)
    rw [List.foldl_cons]
    omega

/-- Digits of a number that fits into a word are all taken. -/
theorem takeDigits_eq {limit m : Nat} {ds : List Nat} (h : ds.foldl (fun n d => n * 10 + d) m ≤ limit) :
    takeDigits limit m ds = (ds.foldl (fun n d => n * 10 + d) m, []) := by
  induction ds generalizing m with
  | nil => rfl
  | cons d ds ih =>
    rw [List.foldl_cons] at h ⊢
    have hFits : m * 10 + d ≤ limit := Nat.le_trans (le_foldl_digits (m * 10 + d) ds) h
    rw [takeDigits, if_pos hFits, ih h]

/-- Digits that are all taken are those of the number that was made of them. -/
theorem takeDigits_nil {limit m n : Nat} {ds : List Nat} (h : takeDigits limit m ds = (n, [])) :
    ds.foldl (fun n d => n * 10 + d) m = n := by
  induction ds generalizing m with
  | nil => exact (Prod.mk.inj h).1
  | cons d ds ih =>
    rw [takeDigits] at h
    split at h
    · exact ih h
    · cases (Prod.mk.inj h).2

namespace Numeral

/-- Whether a numeral is an integer as it is written down: digits alone, and a minus sign before those of a
negative one. -/
structure Denotes (n : Numeral) (k : Int) : Prop where
  fraction : n.fraction = none
  exponent : n.exponent = none
  sign : n.negative = decide (k < 0)
  digits : Decimal.ofDigits n.whole = k.natAbs

theorem denotes_ofInt (k : Int) : (ofInt k).Denotes k :=
  ⟨rfl, rfl, rfl, Decimal.ofDigits_toDigits k.natAbs⟩

/-- An integer of 64 bits is read as itself. -/
theorem Denotes.value? {n : Numeral} {k : Int} (h : n.Denotes k) (hLow : Int64.minValue.toInt ≤ k)
    (hHigh : k < UInt64.size) : n.value? = some (.int k) := by
  have hMin : Int64.minValue.toInt = -2 ^ 63 := rfl
  have hSize : UInt64.size = 2 ^ 64 := rfl
  have hDigits : takeDigits maxSignificand 0 n.whole = (k.natAbs, []) := by
    have hNumber := h.digits
    rw [Decimal.ofDigits] at hNumber
    have hFits : k.natAbs ≤ maxSignificand := by
      unfold maxSignificand
      omega
    rw [takeDigits_eq (by rw [hNumber]; exact hFits), hNumber]
  -- no digit is left over, so it is the sign that decides
  unfold Numeral.value?
  rw [hDigits, h.fraction, h.exponent, h.sign]
  dsimp only
  by_cases hSign : k < 0
  · have hBack : -(k.natAbs : Int) = k := by omega
    have hFits : 0 < k.natAbs ∧ Int64.minValue.toInt ≤ -(k.natAbs : Int) := ⟨by omega, by omega⟩
    rw [if_pos (decide_eq_true hSign), if_pos hFits, hBack]
  · have hBack : (k.natAbs : Int) = k := by omega
    rw [if_neg (by simpa using hSign), hBack]

/-- An integer of any size is not read as another one. -/
theorem Denotes.eq_of_value? {n : Numeral} {k k' : Int} (h : n.Denotes k) (h' : n.value? = some (.int k')) :
    k' = k := by
  have hFloat : ∀ x : Option Float, x.map Number.float ≠ some (.int k') := by
    intro x hx
    cases x <;> cases hx
  unfold Numeral.value? at h'
  rw [h.fraction, h.exponent] at h'
  split at h'
  · next m _ _ hDigits =>
    -- all digits were taken, so the number is that of the digits
    have hNumber : k.natAbs = m := by rw [← h.digits, Decimal.ofDigits, takeDigits_nil hDigits]
    rw [h.sign] at h'
    split at h'
    · next hSign =>
      have hNegative := of_decide_eq_true hSign
      split at h'
      · cases h'
        omega
      · exact absurd h' (hFloat _)
    · next hSign =>
      have hPositive := of_decide_eq_false (eq_false_of_ne_true hSign)
      cases h'
      omega
  · exact absurd h' (hFloat _)

/-- The numeral of an integer of 64 bits stands for that integer. -/
theorem value?_ofInt {k : Int} (hLow : Int64.minValue.toInt ≤ k) (hHigh : k < UInt64.size) :
    (ofInt k).value? = some (.int k) :=
  (denotes_ofInt k).value? hLow hHigh

end Numeral

end Json

end Lorawan
