import Mathlib.Tactic.IntervalCases
import Mathlib.Tactic.SplitIfs
import Lorawan.Time.Calendar

/-!
# The days of the calendar

Every day is on one date.  The calendar repeats after an era of 400 years, and the years are counted from
March, so that a date is a place in an era: the year and the day of that year (`Date.ofPlace`).

* `yearStart_le`, `lt_yearStart`: the year that a day of an era is found in is the year that it lies in.
* `Date.toDays_ofDays`: the date of a day stands for that day.
* `Date.of?_ofDays`: it is a date that there is.
-/

namespace Lorawan.Time

/-! ## Years of an era -/

/-- The number of days in an era. -/
def eraLength : Nat := 146097

/-- The day of the era that a year of it begins with. -/
def yearStart (y : Nat) : Nat := 365 * y + y / 4 - y / 100 + y / 400

/-- The number of days before a day of an era, leap days left out. -/
def commonDays (n : Nat) : Nat := n - n / 1460 + n / 36524 - n / 146096

theorem commonDays_le {m n : Nat} (h : m ≤ n) : commonDays m ≤ commonDays n := by
  have hM : m / 146096 = m / 36524 / 4 := (Nat.div_div_eq_div_mul m 36524 4).symm
  have hN : n / 146096 = n / 36524 / 4 := (Nat.div_div_eq_div_mul n 36524 4).symm
  have hFours : m - m / 1460 ≤ n - n / 1460 := by omega
  have hCenturies : m / 36524 ≤ n / 36524 := Nat.div_le_div_right h
  have hBelow : m / 36524 / 4 ≤ m / 36524 := Nat.div_le_self _ 4
  -- what is taken off for every fourth century never outgrows what is added for the centuries
  unfold commonDays
  rw [hM, hN]
  omega

/-- Every year of an era has 365 days that are not left out. -/
theorem commonDays_yearStart : ∀ y < 400,
    365 * y ≤ commonDays (yearStart y) ∧ commonDays (yearStart (y + 1) - 1) < 365 * (y + 1) := by
  decide +kernel

theorem yearStart_lt (y : Nat) : yearStart y < yearStart (y + 1) := by
  unfold yearStart
  omega

theorem commonDays_lt {n : Nat} (h : n < eraLength) : commonDays n / 365 < 400 := by
  have hLast : commonDays n ≤ commonDays (eraLength - 1) := commonDays_le (Nat.le_pred_of_lt h)
  have hValue : commonDays (eraLength - 1) = 145999 := by decide
  omega

/-- A day lies in the year that it is found in: not before it. -/
theorem yearStart_le {n : Nat} (h : n < eraLength) : yearStart (commonDays n / 365) ≤ n := by
  have hYear := commonDays_lt h
  by_contra hBefore
  -- otherwise it is no later than the last day of the year before
  obtain ⟨y, hY⟩ : ∃ y, commonDays n / 365 = y + 1 := by
    refine ⟨commonDays n / 365 - 1, (Nat.succ_pred fun hZero => ?_).symm⟩
    rw [hZero] at hBefore
    exact hBefore (Nat.zero_le n)
  rw [hY] at hBefore hYear
  have hStart := yearStart_lt y
  have hLe : commonDays n ≤ commonDays (yearStart (y + 1) - 1) := commonDays_le (by omega)
  have hLast := (commonDays_yearStart y (by omega)).2
  omega

/-- A day lies in the year that it is found in: not after it. -/
theorem lt_yearStart {n : Nat} (h : n < eraLength) : n < yearStart (commonDays n / 365 + 1) := by
  have hYear := commonDays_lt h
  by_contra hAfter
  rw [Nat.not_lt] at hAfter
  by_cases hLastYear : commonDays n / 365 + 1 = 400
  · rw [hLastYear] at hAfter
    exact absurd h (Nat.not_lt.mpr hAfter)
  · have hFirst := (commonDays_yearStart (commonDays n / 365 + 1) (by omega)).1
    have hLe := commonDays_le hAfter
    omega

/-! ## Days of a year -/

/-- Whether a year of an era, counted from March, ends with a leap day. -/
def EndsLeap (y : Nat) : Prop := (y + 1) % 4 = 0 ∧ ((y + 1) % 100 ≠ 0 ∨ (y + 1) % 400 = 0)

theorem lt_of_lt_yearStart {y d : Nat} (h : yearStart y + d < yearStart (y + 1)) :
    d < 365 ∨ d = 365 ∧ EndsLeap y := by
  unfold yearStart at h
  unfold EndsLeap
  omega

namespace Date

/-- The date on a day of a year of an era. -/
def ofPlace (era : Int) (y d : Nat) : Date :=
  let month := (5 * d + 2) / 153
  ⟨y + era * 400 + (if month < 10 then 0 else 1), if month < 10 then month + 3 else month - 9,
    d - (153 * month + 2) / 5 + 1⟩

theorem ofDays_eq_ofPlace {days era : Int} {n y d : Nat} (hEra : (days + 719468).fdiv 146097 = era)
    (hDay : days + 719468 - era * 146097 = n) (hYear : commonDays n / 365 = y)
    (hDayOfYear : n = yearStart y + d) (hY : y < 400) : ofDays days = ofPlace era y d := by
  have hYear' : ((n : Int) - n / 1460 + n / 36524 - n / 146096) / 365 = y := by
    unfold commonDays at hYear
    omega
  have hDayOfYear' : (n : Int) - (365 * (y : Int) + y / 4 - y / 100) = d := by
    unfold yearStart at hDayOfYear
    omega
  have hMonth : (5 * (d : Int) + 2) / 153 = ((5 * d + 2) / 153 : Nat) := by omega
  unfold ofDays
  dsimp only
  rw [hEra, hDay, hYear', hDayOfYear', hMonth]
  unfold ofPlace
  dsimp only
  have hStart : (153 * ((5 * d + 2) / 153) + 2) / 5 ≤ d := by omega
  -- a month has a number here that the arithmetic need not look into
  generalize (5 * d + 2) / 153 = month at *
  split_ifs <;> congr 1 <;> omega

/-- Every day has a place in some era. -/
theorem exists_ofPlace (days : Int) : ∃ (era : Int) (y d : Nat), y < 400 ∧
    (d < 365 ∨ d = 365 ∧ EndsLeap y) ∧ days + 719468 = era * 146097 + (yearStart y + d) ∧
    ofDays days = ofPlace era y d := by
  obtain ⟨n, hN⟩ : ∃ n : Nat, (n : Int) = (days + 719468) % 146097 :=
    ⟨_, Int.toNat_of_nonneg (Int.emod_nonneg _ (by decide))⟩
  have hLt : n < eraLength := by
    have hMod := Int.emod_lt_of_pos (days + 719468) (by decide : (0 : Int) < 146097)
    unfold eraLength
    omega
  have hStart := yearStart_le hLt
  have hEnd := lt_yearStart hLt
  have hYear := commonDays_lt hLt
  refine ⟨(days + 719468) / 146097, commonDays n / 365, n - yearStart (commonDays n / 365), hYear, ?_, ?_, ?_⟩
  · exact lt_of_lt_yearStart (by omega)
  · omega
  · exact ofDays_eq_ofPlace (Int.fdiv_eq_ediv_of_nonneg _ (by decide)) (by omega) rfl (by omega) hYear

/-- A date stands for its place. -/
theorem toDays_ofPlace (era : Int) {y d : Nat} (hY : y < 400) (hD : d ≤ 365) :
    (ofPlace era y d).toDays = era * 146097 + (yearStart y + d) - 719468 := by
  have hMonth : (5 * d + 2) / 153 < 12 := by omega
  have hStart : (153 * ((5 * d + 2) / 153) + 2) / 5 ≤ d := by omega
  have hEra : ((y : Int) + era * 400).fdiv 400 = era := by
    rw [Int.fdiv_eq_ediv_of_nonneg _ (by decide)]
    omega
  have hYear : (y : Int) + era * 400 - era * 400 = y := by omega
  unfold ofPlace
  dsimp only
  generalize (5 * d + 2) / 153 = month at *
  -- January and February belong to the calendar year after the one that their days are counted in
  by_cases hLate : month < 10
  · have hAfter : ¬month + 3 ≤ 2 := by omega
    have hAfter' : month + 3 > 2 := by omega
    simp only [toDays, if_pos hLate, if_neg hAfter, if_pos hAfter', Int.add_zero, hEra, hYear]
    unfold yearStart
    omega
  · have hBefore : month - 9 ≤ 2 := by omega
    have hBefore' : ¬month - 9 > 2 := by omega
    simp only [toDays, if_neg hLate, if_pos hBefore, if_neg hBefore', Int.add_sub_cancel, hEra, hYear]
    unfold yearStart
    omega

/-- How long the months are, the last of which has a leap day in some years. -/
theorem day_le_daysInMonth {year : Int} {d : Nat} (hD : d < 365 ∨ d = 365 ∧ isLeapYear year = true) :
    d - (153 * ((5 * d + 2) / 153) + 2) / 5 + 1 ≤
      daysInMonth year (if (5 * d + 2) / 153 < 10 then (5 * d + 2) / 153 + 3 else (5 * d + 2) / 153 - 9) := by
  generalize hMonth : (5 * d + 2) / 153 = month
  have hLast : month ≤ 11 := by omega
  have hLow : 153 * month ≤ 5 * d + 2 := by omega
  have hHigh : 5 * d + 2 < 153 * (month + 1) := by omega
  clear hMonth
  unfold daysInMonth
  interval_cases month
  case «11» =>
    rcases hD with hD | ⟨rfl, hLeap⟩
    · cases isLeapYear year <;> simp <;> omega
    · simp [hLeap]
  all_goals
    simp
    omega

theorem of?_ofPlace (era : Int) {y d : Nat} (hD : d < 365 ∨ d = 365 ∧ EndsLeap y) :
    of? (ofPlace era y d).year (ofPlace era y d).month (ofPlace era y d).day = some (ofPlace era y d) := by
  have hMonth : (5 * d + 2) / 153 < 12 := by omega
  have hLeap : d < 365 ∨ d = 365 ∧ isLeapYear (ofPlace era y d).year = true := by
    refine hD.imp_right fun ⟨hLast, hEnds⟩ => ⟨hLast, ?_⟩
    subst hLast
    unfold EndsLeap at hEnds
    simp only [ofPlace, isLeapYear, Bool.and_eq_true, Bool.or_eq_true, beq_iff_eq, bne_iff_ne]
    norm_num
    omega
  have hDay := day_le_daysInMonth hLeap
  rw [of?, if_pos]
  unfold ofPlace at hDay ⊢
  dsimp only at hDay ⊢
  split_ifs at hDay ⊢ <;> omega

/-- The date of a day stands for that day. -/
theorem toDays_ofDays (days : Int) : (ofDays days).toDays = days := by
  obtain ⟨era, y, d, hY, hD, hDays, hDate⟩ := exists_ofPlace days
  rw [hDate, toDays_ofPlace era hY (by omega)]
  omega

/-- The date of a day is one that there is. -/
theorem of?_ofDays (days : Int) :
    of? (ofDays days).year (ofDays days).month (ofDays days).day = some (ofDays days) := by
  obtain ⟨era, y, d, -, hD, -, hDate⟩ := exists_ofPlace days
  rw [hDate, of?_ofPlace era hD]

/-- The numbers of a date that there is have at most two digits, but for the year. -/
theorem lt_of_of?_eq_some {year : Int} {month day : Nat} {date : Date}
    (h : of? year month day = some date) : month < 100 ∧ day < 100 := by
  have hBound : daysInMonth year month ≤ 31 := by
    unfold daysInMonth
    split_ifs <;> decide
  unfold of? at h
  split_ifs at h
  omega

end Date

end Lorawan.Time
