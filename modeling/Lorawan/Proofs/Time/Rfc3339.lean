import Lorawan.Proofs.Decimal.Digits
import Lorawan.Proofs.Time.Calendar
import Lorawan.Time.Rfc3339

/-!
# Reading times back

The relaxed reader takes one part of a text after the other: blanks, then a number, a mark or a sign.  What
is written has no blanks in it, and what follows a number there never begins with a digit, so every part is
read as it was written, whatever follows.

* `readYear_yearText`, `readNumber_padded`, `readFraction_fractionText`: the parts of a text.
* `Instant.parseRelaxed?_text`: an instant that can be written down at all is read back.
-/

namespace Lorawan.Time

open Decimal (digit?)

/-! ## Padded numbers -/

theorem toList_padded (width n : Nat) : (padded width n).toList =
    List.replicate (width - (Nat.toDigits 10 n).length) '0' ++ Nat.toDigits 10 n :=
  String.toList_ofList

theorem isDigit_of_mem_padded {width n : Nat} : ∀ c ∈ (padded width n).toList, c.isDigit = true := by
  rw [toList_padded, List.forall_mem_append]
  refine ⟨fun c hc => ?_, Decimal.isDigit_of_mem_toDigits⟩
  obtain rfl := List.eq_of_mem_replicate hc
  rfl

theorem padded_ne_nil {width n : Nat} : (padded width n).toList ≠ [] := by
  rw [toList_padded]
  exact List.append_ne_nil_of_right_ne_nil _ Nat.toDigits_ne_nil

theorem length_padded {width n : Nat} (hWidth : 0 < width) (h : n < 10 ^ width) :
    (padded width n).toList.length = width := by
  have hLength : (Nat.toDigits 10 n).length ≤ width :=
    (Nat.length_toDigits_le_iff (by decide) hWidth).mpr h
  rw [toList_padded, List.length_append, List.length_replicate, Nat.sub_add_cancel hLength]

theorem ofDigitChars_zeros (count : Nat) : Nat.ofDigitChars 10 (List.replicate count '0') 0 = 0 := by
  induction count with
  | zero => rfl
  | succ count ih =>
    rw [List.replicate_succ, Nat.ofDigitChars_cons]
    exact ih

theorem ofDigitChars_padded (width n : Nat) : Nat.ofDigitChars 10 (padded width n).toList 0 = n := by
  rw [toList_padded, Nat.ofDigitChars_append, ofDigitChars_zeros, Nat.ofDigitChars_ten_toDigits]

/-! ## Reading the parts -/

/-- Whether a text does not go on with a digit. -/
def EndsNumber (cs : List Char) : Prop := ∀ c ∈ cs.head?, c.isDigit = false

theorem EndsNumber.take {cs : List Char} (h : EndsNumber cs) (count : Nat) : EndsNumber (cs.take count) := by
  intro c hc
  refine h c ?_
  cases count with
  | zero => exact absurd hc nofun
  | succ count => rwa [List.head?_take, if_neg (Nat.succ_ne_zero count)] at hc

theorem isBlank_of_isDigit {c : Char} (h : c.isDigit = true) : Text.isBlank c = false := by
  rw [Char.isDigit, Bool.and_eq_true, decide_eq_true_eq, decide_eq_true_eq, ge_iff_le, UInt32.le_iff_toNat_le,
    UInt32.le_iff_toNat_le] at h
  have hLow : 48 ≤ c.toNat := h.1
  have hHigh : c.toNat ≤ 57 := h.2
  simp only [Text.isBlank, Bool.or_eq_false_iff, Bool.and_eq_false_iff, decide_eq_false_iff_not,
    beq_eq_false_iff_ne]
  omega

theorem trimStart_cons {c : Char} (h : Text.isBlank c = false) (cs : List Char) :
    Text.trimStart (c :: cs) = c :: cs := by
  rw [Text.trimStart, List.dropWhile_cons_of_neg (by rw [h]; decide)]

theorem trimStart_digits {ds : List Char} (hDigits : ∀ c ∈ ds, c.isDigit = true) (hNil : ds ≠ [])
    (rest : List Char) : Text.trimStart (ds ++ rest) = ds ++ rest := by
  cases ds with
  | nil => exact absurd rfl hNil
  | cons d ds => exact trimStart_cons (isBlank_of_isDigit (hDigits d List.mem_cons_self)) (ds ++ rest)

theorem takeWhile_digits {ds rest : List Char} (hDigits : ∀ c ∈ ds, c.isDigit = true)
    (hEnds : EndsNumber rest) :
    (ds ++ rest).takeWhile (fun c => (digit? c).isSome) = ds := by
  have hAll : ∀ c ∈ ds, (digit? c).isSome = true := fun c hc => by
    rw [Decimal.isSome_digit?, hDigits c hc]
  rw [List.takeWhile_append_of_pos hAll]
  cases rest with
  | nil => exact List.append_nil ds
  | cons c rest =>
    have hFirst : ¬(digit? c).isSome = true := by
      rw [Decimal.isSome_digit?, hEnds c rfl]
      decide
    rw [List.takeWhile_cons, if_neg hFirst, List.append_nil]

/-- A number ends where no digit follows, or after as many digits as are looked at. -/
theorem readNumber_append {width : Nat} {ds rest : List Char} (hDigits : ∀ c ∈ ds, c.isDigit = true)
    (hNil : ds ≠ []) (hWidth : ds.length ≤ width) (hEnds : ds.length = width ∨ EndsNumber rest) :
    readNumber width (ds ++ rest) = some (Nat.ofDigitChars 10 ds 0, rest) := by
  -- either the width cuts what follows off, or what follows stops the digits by itself
  have hTake : ((ds ++ rest).take width).takeWhile (fun c => (digit? c).isSome) = ds := by
    rw [List.take_append, List.take_of_length_le hWidth]
    refine takeWhile_digits hDigits ?_
    rcases hEnds with hFull | hEnds
    · rw [hFull, Nat.sub_self, List.take_zero]
      exact nofun
    · exact hEnds.take _
  have hEmpty : ds.isEmpty = false := List.isEmpty_eq_false_iff.mpr hNil
  rw [readNumber, trimStart_digits hDigits hNil, hTake, hEmpty, Decimal.ofDigits_filterMap hDigits,
    List.drop_left]
  rfl

theorem readNumber_padded {width n : Nat} (hWidth : 0 < width) (h : n < 10 ^ width) (rest : List Char) :
    readNumber width ((padded width n).toList ++ rest) = some (n, rest) := by
  have hLength := length_padded hWidth h
  rw [readNumber_append isDigit_of_mem_padded padded_ne_nil hLength.le (.inl hLength), ofDigitChars_padded]

theorem readMark_cons {mark : Char} (h : Text.isBlank mark = false) (rest : List Char) :
    readMark mark (mark :: rest) = some rest := by
  rw [readMark, trimStart_cons h]
  exact if_pos rfl

theorem head?_isSome_of_padded (width n : Nat) (rest : List Char) :
    ((((padded width n).toList ++ rest).head?).bind digit?).isNone = false := by
  cases hDigits : (padded width n).toList with
  | nil => exact absurd hDigits padded_ne_nil
  | cons d ds =>
    have hFirst : d.isDigit = true := isDigit_of_mem_padded d (hDigits ▸ List.mem_cons_self)
    rw [List.cons_append, List.head?_cons, Option.bind_some, Decimal.digit?_of_isDigit hFirst]
    rfl

theorem readYear_minus {rest : List Char} (h : (rest.head?.bind digit?).isNone = false) :
    readYear ('-' :: rest) = (readNumber rest.length rest).map fun p => (-(p.1 : Int), p.2) := by
  rw [readYear, trimStart_cons rfl]
  exact if_neg (by rw [h]; decide)

theorem readYear_plus {rest : List Char} (h : (rest.head?.bind digit?).isNone = false) :
    readYear ('+' :: rest) = (readNumber rest.length rest).map fun p => ((p.1 : Int), p.2) := by
  rw [readYear, trimStart_cons rfl]
  exact if_neg (by rw [h]; decide)

theorem readYear_digit {c : Char} {cs : List Char} (h : c.isDigit = true) :
    readYear (c :: cs) = (readNumber 4 (c :: cs)).map fun p => ((p.1 : Int), p.2) := by
  rw [readYear, trimStart_cons (isBlank_of_isDigit h)]
  split
  case h_1 hSign =>
    cases hSign
    exact absurd h (by decide)
  case h_2 hSign =>
    cases hSign
    exact absurd h (by decide)
  case h_3 => rfl

/-- A year is read with or without its sign. -/
theorem readYear_yearText (y : Int) {rest : List Char} (hEnds : EndsNumber rest) :
    readYear ((yearText y).toList ++ rest) = some (y, rest) := by
  have hSigned : readNumber ((padded 4 y.natAbs).toList ++ rest).length
      ((padded 4 y.natAbs).toList ++ rest) = some (y.natAbs, rest) := by
    rw [readNumber_append isDigit_of_mem_padded padded_ne_nil
      (List.length_append ▸ Nat.le_add_right _ _) (.inr hEnds), ofDigitChars_padded]
  unfold yearText
  split_ifs with hPlain hNegative
  · -- four digits and no sign, then a minus, then a plus
    have hNumber := readNumber_padded (by decide : 0 < 4) (by omega : y.toNat < 10 ^ 4) rest
    have hBack : (y.toNat : Int) = y := Int.toNat_of_nonneg hPlain.1
    cases hDigits : (padded 4 y.toNat).toList with
    | nil => exact absurd hDigits padded_ne_nil
    | cons d ds =>
      rw [hDigits, List.cons_append] at hNumber
      have hFirst : d.isDigit = true := isDigit_of_mem_padded d (hDigits ▸ List.mem_cons_self)
      rw [List.cons_append, readYear_digit hFirst]
      simp only [hNumber, Option.map_some, hBack]
  · have hBack : -(y.natAbs : Int) = y := by omega
    rw [String.toList_append]
    refine (readYear_minus (head?_isSome_of_padded 4 y.natAbs rest)).trans ?_
    simp only [hSigned, Option.map_some, hBack]
  · have hBack : (y.natAbs : Int) = y := by omega
    rw [String.toList_append]
    refine (readYear_plus (head?_isSome_of_padded 4 y.natAbs rest)).trans ?_
    simp only [hSigned, Option.map_some, hBack]

theorem readFraction_cons {cs ds : List Char} (hTake : cs.takeWhile (fun c => (digit? c).isSome) = ds)
    (hNil : ds ≠ []) : readFraction ('.' :: cs) =
      some (Decimal.ofDigits ((ds.take 9).filterMap digit?) *
        10 ^ (9 - ((ds.take 9).filterMap digit?).length), cs.drop ds.length) := by
  subst hTake
  exact if_neg (mt List.isEmpty_iff.mp hNil)

/-- The digits after a point, with as many of them as are exact. -/
theorem readFraction_point {width n : Nat} (hWidth : 0 < width) (hNine : width ≤ 9) (h : n < 10 ^ width)
    {rest : List Char} (hEnds : EndsNumber rest) :
    readFraction ('.' :: ((padded width n).toList ++ rest)) = some (n * 10 ^ (9 - width), rest) := by
  have hLength := length_padded hWidth h
  have hTake : ((padded width n).toList ++ rest).takeWhile (fun c => (digit? c).isSome) =
      (padded width n).toList := takeWhile_digits isDigit_of_mem_padded hEnds
  have hShown : ((padded width n).toList.filterMap digit?).length = width := by
    rw [Decimal.filterMap_digit? isDigit_of_mem_padded, List.length_map, hLength]
  rw [readFraction_cons hTake padded_ne_nil, List.take_of_length_le (hLength.trans_le hNine), hShown,
    Decimal.ofDigits_filterMap isDigit_of_mem_padded, ofDigitChars_padded, List.drop_left]

theorem readFraction_of_ne {rest : List Char} (hPoint : '.' ∉ rest.head?) :
    readFraction rest = some (0, rest) := by
  unfold readFraction
  split
  case h_1 => exact absurd rfl hPoint
  case h_2 => rfl

theorem readFraction_fractionText {nanos : Nat} (h : nanos < nanosPerSecond) {rest : List Char}
    (hEnds : EndsNumber rest) (hPoint : '.' ∉ rest.head?) :
    readFraction ((fractionText nanos).toList ++ rest) = some (nanos, rest) := by
  unfold nanosPerSecond at h
  unfold fractionText
  split_ifs with hZero hMillis hMicros
  · rw [hZero]
    exact readFraction_of_ne hPoint
  · rw [String.toList_append]
    refine (readFraction_point (by decide) (by decide) (by omega) hEnds).trans ?_
    rw [show nanos / 1000000 * 10 ^ (9 - 3) = nanos by omega]
  · rw [String.toList_append]
    refine (readFraction_point (by decide) (by decide) (by omega) hEnds).trans ?_
    rw [show nanos / 1000 * 10 ^ (9 - 6) = nanos by omega]
  · rw [String.toList_append]
    refine (readFraction_point (by decide) (by decide) (by omega) hEnds).trans ?_
    rw [show nanos * 10 ^ (9 - 9) = nanos by omega]

theorem readOffset_universal : readOffset ['Z'] = some (0, []) := by
  decide +kernel

/-! ## Instants -/

namespace Instant

/-- Whether an instant can be written down: its year is one that there are times in, and only the last
second of a minute runs on into a leap second. -/
structure IsRepresentable (t : Instant) : Prop where
  year_ge : minYear ≤ (Zoned.mk t 0).clock.date.year
  year_le : (Zoned.mk t 0).clock.date.year ≤ maxYear
  nanos_lt : t.nanos < 2 * nanosPerSecond
  leap : nanosPerSecond ≤ t.nanos → t.seconds % 60 = 59

instance (t : Instant) : Decidable t.IsRepresentable :=
  decidable_of_iff (minYear ≤ (Zoned.mk t 0).clock.date.year ∧ (Zoned.mk t 0).clock.date.year ≤ maxYear ∧
      t.nanos < 2 * nanosPerSecond ∧ (nanosPerSecond ≤ t.nanos → t.seconds % 60 = 59))
    ⟨fun ⟨h₁, h₂, h₃, h₄⟩ => ⟨h₁, h₂, h₃, h₄⟩, fun ⟨h₁, h₂, h₃, h₄⟩ => ⟨h₁, h₂, h₃, h₄⟩⟩

end Instant

/-- The characters that write what a clock shows, part by part, and then the letter for universal time. -/
def clockChars (year : Int) (month day hour minute second nanos : Nat) : List Char :=
  (yearText year).toList ++ ('-' :: ((padded 2 month).toList ++ ('-' :: ((padded 2 day).toList ++
    ('T' :: ((padded 2 hour).toList ++ (':' :: ((padded 2 minute).toList ++ (':' ::
      ((padded 2 second).toList ++ ((fractionText nanos).toList ++ ['Z'])))))))))))

theorem endsNumber_cons {c : Char} (h : c.isDigit = false) (cs : List Char) : EndsNumber (c :: cs) :=
  fun _ hc => Option.some.inj hc ▸ h

/-- What is read from the characters, one part after the other. -/
theorem parseRelaxed?_clockChars {s : String} {date : Date} {hour minute second nanos : Nat} {z : Zoned}
    (hText : s.toList = clockChars date.year date.month date.day hour minute second nanos)
    (hDate : Date.of? date.year date.month date.day = some date)
    (hGuard : hour ≤ 23 ∧ minute ≤ 59 ∧ second ≤ 60 ∧ minYear ≤ date.year ∧ date.year ≤ maxYear)
    (hNanos : nanos < nanosPerSecond)
    (hZoned : (if second = 60 then zonedOf? date hour minute 59 (nanos + nanosPerSecond) 0
      else zonedOf? date hour minute second nanos 0) = some z) :
    parseRelaxed? s = some z := by
  have hPair {n : Nat} (hn : n < 100) (rest : List Char) :
      readNumber 2 ((padded 2 n).toList ++ rest) = some (n, rest) :=
    readNumber_padded (by decide) hn rest
  have hDash (rest : List Char) : readMark '-' ('-' :: rest) = some rest := readMark_cons rfl rest
  have hColon (rest : List Char) : readMark ':' (':' :: rest) = some rest := readMark_cons rfl rest
  have hFraction : readFraction ((fractionText nanos).toList ++ ['Z']) = some (nanos, ['Z']) :=
    readFraction_fractionText hNanos (endsNumber_cons rfl []) (by decide)
  obtain ⟨hMonth, hDay⟩ := Date.lt_of_of?_eq_some hDate
  rw [parseRelaxed?, hText, clockChars]
  refine Option.bind_eq_some_iff.mpr ⟨_, readYear_yearText date.year (endsNumber_cons rfl _), ?_⟩
  refine Option.bind_eq_some_iff.mpr ⟨_, hDash _, ?_⟩
  refine Option.bind_eq_some_iff.mpr ⟨_, hPair hMonth _, ?_⟩
  refine Option.bind_eq_some_iff.mpr ⟨_, hDash _, ?_⟩
  refine Option.bind_eq_some_iff.mpr ⟨_, hPair hDay _, ?_⟩
  -- the letter between the date and the time
  refine Option.bind_eq_some_iff.mpr ⟨_, rfl, ?_⟩
  refine Option.bind_eq_some_iff.mpr ⟨_, hPair (by omega) _, ?_⟩
  refine Option.bind_eq_some_iff.mpr ⟨_, hColon _, ?_⟩
  refine Option.bind_eq_some_iff.mpr ⟨_, hPair (by omega) _, ?_⟩
  refine Option.bind_eq_some_iff.mpr ⟨_, hColon _, ?_⟩
  refine Option.bind_eq_some_iff.mpr ⟨_, hPair (by omega) _, ?_⟩
  refine Option.bind_eq_some_iff.mpr ⟨_, hFraction, ?_⟩
  refine Option.bind_eq_some_iff.mpr ⟨_, readOffset_universal, ?_⟩
  -- nothing is left, and the numbers are in their ranges
  refine Option.bind_eq_some_iff.mpr ⟨(), rfl, ?_⟩
  refine Option.bind_eq_some_iff.mpr ⟨(), if_pos hGuard, ?_⟩
  exact Option.bind_eq_some_iff.mpr ⟨_, hDate, hZoned⟩

/-- The characters of a clock that is not within a leap second. -/
theorem Clock.toList_text {c : Clock} (h : c.nanos < nanosPerSecond) :
    (c.text ++ "Z").toList = clockChars c.date.year c.date.month c.date.day (c.second / 3600)
      (c.second / 60 % 60) (c.second % 60) c.nanos := by
  have hNanos : ¬c.nanos ≥ nanosPerSecond := by omega
  simp [text, clockChars, hNanos]

/-- The characters of a clock within a leap second, which show one second more. -/
theorem Clock.toList_text_leap {c : Clock} (h : nanosPerSecond ≤ c.nanos) :
    (c.text ++ "Z").toList = clockChars c.date.year c.date.month c.date.day (c.second / 3600)
      (c.second / 60 % 60) (c.second % 60 + 1) (c.nanos - nanosPerSecond) := by
  simp [text, clockChars, h]

namespace Instant

/-- What a clock shows in universal time. -/
theorem clock_eq (t : Instant) : ∃ second : Nat, (second : Int) = t.seconds % 86400 ∧
    (Zoned.mk t 0).clock = ⟨Date.ofDays (t.seconds / 86400), second, t.nanos⟩ := by
  refine ⟨(t.seconds % 86400).toNat, Int.toNat_of_nonneg (Int.emod_nonneg _ (by decide)), ?_⟩
  rw [Zoned.clock]
  dsimp only
  rw [Int.add_zero, Int.fdiv_eq_ediv_of_nonneg _ (by decide), Int.fmod_eq_emod_of_nonneg _ (by decide)]

/-- The instant that clocks in universal time show. -/
theorem zonedOf?_eq {t : Instant} {hour minute second nanos : Nat} (hNanos : nanos = t.nanos)
    (hSecond : ((hour * 3600 + minute * 60 + second : Nat) : Int) = t.seconds % 86400) :
    zonedOf? (Date.ofDays (t.seconds / 86400)) hour minute second nanos 0 = some ⟨t, 0⟩ := by
  have hSeconds : (t.seconds / 86400) * 86400 + ((hour * 3600 + minute * 60 + second : Nat) : Int) - 0 =
      t.seconds := by omega
  rw [zonedOf?, if_pos (by decide), Zoned.ofClock]
  dsimp only
  rw [Date.toDays_ofDays, hSeconds, hNanos]

/-- Reading the text of an instant gives it back. -/
theorem parseRelaxed?_text {t : Instant} (h : t.IsRepresentable) : parseRelaxed? t.text = some ⟨t, 0⟩ := by
  obtain ⟨second, hSecond, hClock⟩ := t.clock_eq
  obtain ⟨hYearLow, hYearHigh, hNanos, hLeap⟩ := h
  rw [hClock] at hYearLow hYearHigh
  have hDay : (second : Int) < 86400 := hSecond ▸ Int.emod_lt_of_pos _ (by decide)
  have hHour : second / 3600 ≤ 23 := by omega
  have hMinute : second / 60 % 60 ≤ 59 := by omega
  have hSum : second / 3600 * 3600 + second / 60 % 60 * 60 + second % 60 = second := by omega
  have hDate := Date.of?_ofDays (t.seconds / 86400)
  rw [text, hClock]
  by_cases hLeapSecond : nanosPerSecond ≤ t.nanos
  · -- the sixtieth second is read as the one before it, with the nanoseconds running on
    have hLast : second % 60 = 59 := by
      have hMod := hLeap hLeapSecond
      omega
    have hShown : second % 60 + 1 = 60 := by omega
    have hRest : t.nanos - nanosPerSecond < nanosPerSecond := by omega
    have hBack : t.nanos - nanosPerSecond + nanosPerSecond = t.nanos := by omega
    refine parseRelaxed?_clockChars (Clock.toList_text_leap hLeapSecond) hDate
      ⟨hHour, hMinute, hShown.le, hYearLow, hYearHigh⟩ hRest ?_
    rw [if_pos hShown]
    exact zonedOf?_eq hBack (by rw [← hLast, hSum, hSecond])
  · -- any other second is shown as it is
    have hShown : second % 60 < 60 := Nat.mod_lt _ (by decide)
    have hNanos : t.nanos < nanosPerSecond := Nat.lt_of_not_le hLeapSecond
    refine parseRelaxed?_clockChars (Clock.toList_text hNanos) hDate
      ⟨hHour, hMinute, hShown.le, hYearLow, hYearHigh⟩ hNanos ?_
    rw [if_neg hShown.ne]
    exact zonedOf?_eq rfl (by rw [hSum, hSecond])

example : parseRelaxed? "2024-02-29T23:59:60.500Z" = some ⟨⟨1709251199, 1500000000⟩, 0⟩ := by decide +kernel

end Instant

end Lorawan.Time
