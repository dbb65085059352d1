import Lorawan.Identifier
import Lorawan.Proofs.Text.Hex

/-!
# Identifiers and their texts

An identifier is read from as many hexadecimal digits as its kind asks for, of either case, and from nothing
else.  It is written in lower case, so that a text is known but for the case of its letters.  As the digits
have the order of their values, identifiers stand in the order of their texts.

* `Identifier.parse_eq_ok_iff`, `Identifier.parse_eq_error_iff`: what a text stands for, or else what is
  told of it.
* `Identifier.le_iff_text_le`: the order of identifiers.
* `Identifier.reads_digits`: both.
-/

namespace Lorawan

namespace Hex

/-! ## Digits -/

theorem toList_toLower (s : String) : s.toLower.toList = s.toList.map Char.toLower := String.toList_map

/-- No other letter becomes a digit in lower case. -/
theorem isDigit_of_toLower {c : Char} (h : IsDigit c.toLower) : IsDigit c := by
  delta Char.toLower at h
  split at h
  · next hUpper =>
    obtain ⟨hA, hZ⟩ := hUpper
    have hStep : ('a'.val - 'A'.val).toNat = 32 := rfl
    have hEnds : '0'.val.toNat = 48 ∧ '9'.val.toNat = 57 ∧ 'a'.val.toNat = 97 ∧ 'f'.val.toNat = 102 ∧
      'A'.val.toNat = 65 ∧ 'F'.val.toNat = 70 ∧ 'Z'.val.toNat = 90 := by decide
    simp only [IsDigit, Char.le_def, UInt32.le_iff_toNat_le, ge_iff_le, UInt32.toNat_add, hStep]
      at h hA hZ ⊢
    omega
  · exact h

/-! ## The order of digits -/

theorem digit_lt_digit_iff : ∀ {m n : Fin 16}, digit m < digit n ↔ m < n := by decide

theorem digit_inj {m n : Fin 16} : digit m = digit n ↔ m = n := digit_injective.eq_iff

/-- Bytes are compared by their high nibbles first. -/
theorem lt_iff_nibbles {a b : UInt8} : a < b ↔ high a < high b ∨ high a = high b ∧ low a < low b := by
  simp only [UInt8.lt_iff_toNat_lt, high, low, Fin.lt_def, Fin.ext_iff, Fin.ofNat]
  have ha := a.toNat_lt
  have hb := b.toNat_lt
  omega

theorem eq_iff_nibbles {a b : UInt8} : a = b ↔ high a = high b ∧ low a = low b := by
  constructor
  · rintro rfl
    exact ⟨rfl, rfl⟩
  · rintro ⟨hHigh, hLow⟩
    rw [← byte_high_low a, ← byte_high_low b, hHigh, hLow]

/-- The digits of a byte come before those of another in the order of the bytes. -/
theorem encodeChars_cons_lex_iff {a b : UInt8} {as bs : List UInt8} :
    List.Lex (· < ·) (encodeChars (a :: as)) (encodeChars (b :: bs)) ↔
      a < b ∨ a = b ∧ List.Lex (· < ·) (encodeChars as) (encodeChars bs) := by
  rw [encodeChars, encodeChars, List.cons_lex_cons_iff, List.cons_lex_cons_iff, digit_lt_digit_iff,
    digit_lt_digit_iff, digit_inj, digit_inj, lt_iff_nibbles, eq_iff_nibbles, and_assoc, and_or_left,
    or_assoc]

end Hex

namespace Identifier

variable {kind : IdentifierKind} {s : String}

/-! ## Reading -/

/-- How many digits an identifier of a kind is written in. -/
def digits : IdentifierKind → Nat
  | .eui64 => 16
  | .devAddr => 8
  | .netId => 6

theorem digits_eq (kind : IdentifierKind) : digits kind = 2 * kind.size := by cases kind <;> rfl

theorem parse_eq_ok_iff {id : Identifier kind} : parse kind s = .ok id ↔ Hex.Writes s id.bytes := by
  unfold parse ofBytes
  rw [← Hex.decode?_eq_some_iff]
  cases Hex.decode? s with
  | none => simp
  | some bs =>
    dsimp only
    split
    · rw [Except.ok.injEq, Option.some.injEq]
      exact ⟨fun h => h ▸ rfl, fun h => bytes_injective h⟩
    · rename_i hSize
      refine iff_of_false (fun h => by cases h) fun h => hSize ?_
      rw [Option.some.inj h, id.size_eq]

theorem parse_eq_error_iff {e : IdentifierError} :
    parse kind s = .error e ↔
      (∃ bs, Hex.Writes s bs ∧ bs.length ≠ kind.size ∧ e = ⟨kind, bs.length⟩) ∨
        (∀ bs, ¬Hex.Writes s bs) ∧ e = ⟨kind, 0⟩ := by
  unfold parse ofBytes
  simp only [← Hex.decode?_eq_some_iff]
  cases Hex.decode? s with
  | none => simp [eq_comm]
  | some bs =>
    dsimp only
    split <;> simp_all [eq_comm]

/-- The texts of identifiers by their characters. -/
theorem exists_parse_eq_ok_iff :
    (∃ id, parse kind s = .ok id) ↔ s.length = digits kind ∧ ∀ c ∈ s.toList, Hex.IsDigit c := by
  simp only [parse_eq_ok_iff]
  constructor
  · rintro ⟨id, hWrites⟩
    rw [hWrites.length_eq, id.size_eq, digits_eq]
    exact ⟨rfl, hWrites.1⟩
  · rintro ⟨hLength, hDigits⟩
    rw [digits_eq] at hLength
    obtain ⟨bs, hWrites⟩ := Hex.exists_writes_iff.mpr ⟨hDigits, by omega⟩
    have hSize := hWrites.length_eq
    exact ⟨⟨bs, by omega⟩, hWrites⟩

/-- What is told of a text counts its bytes if it is made of pairs of digits, and nothing otherwise. -/
theorem actual_of_parse_eq_error {e : IdentifierError} (h : parse kind s = .error e) :
    e.kind = kind ∧
      ((∀ c ∈ s.toList, Hex.IsDigit c) ∧ s.length % 2 = 0 → e.actual = s.length / 2) ∧
      (¬((∀ c ∈ s.toList, Hex.IsDigit c) ∧ s.length % 2 = 0) → e.actual = 0) := by
  obtain ⟨bs, hWrites, -, rfl⟩ | ⟨hNone, rfl⟩ := parse_eq_error_iff.mp h
  · have hSize := hWrites.length_eq
    have hPairs := Hex.exists_writes_iff.mp ⟨bs, hWrites⟩
    exact ⟨rfl, fun _ => by dsimp only; omega, fun hNot => absurd hPairs hNot⟩
  · exact ⟨rfl, fun hPairs => absurd (Hex.exists_writes_iff.mpr hPairs) (not_exists.mpr hNone), fun _ => rfl⟩

/-! ## Writing -/

theorem toList_text (id : Identifier kind) : id.text.toList = Hex.encodeChars id.bytes :=
  String.toList_ofList

theorem text_injective : Function.Injective (@text kind) := by
  intro a b h
  have hBack := parse_text a
  rw [h, parse_text] at hBack
  exact (Except.ok.inj hBack).symm

/-- An identifier is written as the text it was read from, in lower case. -/
theorem text_eq_toLower {id : Identifier kind} (h : parse kind s = .ok id) : id.text = s.toLower := by
  apply String.toList_injective
  rw [toList_text, Hex.toList_toLower, (parse_eq_ok_iff.mp h).2]

/-- An identifier is read from its text in any case. -/
theorem parse_of_toLower_eq {id : Identifier kind} (h : s.toLower = id.text) : parse kind s = .ok id := by
  have hLower : s.toList.map Char.toLower = Hex.encodeChars id.bytes := by
    rw [← toList_text, ← h, Hex.toList_toLower]
  have hDigits := (parse_eq_ok_iff.mp (parse_text id)).1
  rw [toList_text, ← hLower] at hDigits
  refine parse_eq_ok_iff.mpr ⟨fun c hc => ?_, hLower⟩
  exact Hex.isDigit_of_toLower (hDigits _ (List.mem_map_of_mem hc))

/-- Texts stand for one identifier just if they differ in the case of letters at most. -/
theorem eq_iff_toLower_eq {t : String} {a b : Identifier kind} (ha : parse kind s = .ok a)
    (hb : parse kind t = .ok b) : a = b ↔ s.toLower = t.toLower := by
  rw [← text_eq_toLower ha, ← text_eq_toLower hb, text_injective.eq_iff]

/-! ## Order -/

theorem bytesLe_iff {as bs : List UInt8} :
    bytesLe as bs = true ↔ ¬List.Lex (· < ·) (Hex.encodeChars bs) (Hex.encodeChars as) := by
  induction as generalizing bs with
  | nil => exact iff_of_true rfl List.not_lex_nil
  | cons a as ih =>
    cases bs with
    | nil => exact iff_of_false nofun fun h => h .nil
    | cons b bs =>
      rw [Hex.encodeChars_cons_lex_iff, not_or, not_and, ← ih, bytesLe, Bool.or_eq_true,
        decide_eq_true_iff, Bool.and_eq_true, beq_iff_eq, UInt8.lt_iff_toNat_lt, UInt8.lt_iff_toNat_lt,
        ← UInt8.toNat_inj, ← UInt8.toNat_inj]
      -- the first bytes decide, unless they are equal
      rcases Nat.lt_trichotomy a.toNat b.toNat with h | h | h
      · exact iff_of_true (.inl h) ⟨by omega, fun hEq => by omega⟩
      · simp [h]
      · exact iff_of_false (by omega) fun hNot => hNot.1 h

theorem le_iff_text_le {a b : Identifier kind} : a.le b = true ↔ a.text ≤ b.text := by
  rw [le, bytesLe_iff, ← toList_text, ← toList_text]
  rfl

/-- Sorting identifiers sorts their texts. -/
theorem map_text_sort (ids : List (Identifier kind)) :
    (sort ids).map text = (ids.map text).mergeSort fun s t => decide (s ≤ t) := by
  refine List.map_mergeSort fun a _ b _ => ?_
  rw [Bool.eq_iff_iff, le_iff_text_le, decide_eq_true_iff]

/-- An identifier is read from a text exactly if that has the right number of hexadecimal digits and nothing
else.  It is written as that text in lower case, from which it is read again, and two texts stand for one
identifier just if they are equal up to case.  A text that is refused is told the number of its bytes if it
is made of pairs of digits, and zero otherwise.  Identifiers have the order of their texts, and are sorted as
these are. -/
theorem reads_digits (kind : IdentifierKind) :
    (∀ s, (∃ id, parse kind s = .ok id) ↔
      s.length = digits kind ∧ ∀ c ∈ s.toList, Hex.IsDigit c) ∧
    (∀ s id, parse kind s = .ok id → id.text = s.toLower ∧ parse kind id.text = .ok id) ∧
    (∀ s t a b, parse kind s = .ok a → parse kind t = .ok b → (a = b ↔ s.toLower = t.toLower)) ∧
    (∀ s e, parse kind s = .error e → e.kind = kind ∧
      ((∀ c ∈ s.toList, Hex.IsDigit c) ∧ s.length % 2 = 0 → e.actual = s.length / 2) ∧
      (¬((∀ c ∈ s.toList, Hex.IsDigit c) ∧ s.length % 2 = 0) → e.actual = 0)) ∧
    (∀ a b : Identifier kind, a.le b = true ↔ a.text ≤ b.text) ∧
    ∀ ids : List (Identifier kind),
      (sort ids).map text = (ids.map text).mergeSort fun s t => decide (s ≤ t) := by
  refine ⟨fun s => exists_parse_eq_ok_iff, fun s id h => ⟨text_eq_toLower h, parse_text id⟩,
    fun s t a b ha hb => eq_iff_toLower_eq ha hb, fun s e h => actual_of_parse_eq_error h,
    fun a b => le_iff_text_le, map_text_sort⟩

/-- A text of nine bytes is told their number; one digit less, and it is told nothing. -/
example : parse .eui64 "0102030405060708Ff" = .error ⟨.eui64, 9⟩ ∧
    parse .eui64 "0102030405060708F" = .error ⟨.eui64, 0⟩ := ⟨rfl, rfl⟩

end Identifier

end Lorawan
