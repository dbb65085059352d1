import Mathlib.Data.List.Forall2
import Lorawan.Proofs.Text.Pieces
import Lorawan.Settings

/-!
# Lists of keys as text

A list of keys is written as entries `label=key` with commas between them.  There may be white space around
labels, keys and entries, and blank entries anywhere (`WritesEntries`).  Reading undoes this, as long as no
label or key has a comma in it or white space at its ends, and no label an equals sign (`KekEntry.IsPlain`);
and what is read from any text are entries of that kind, one for each piece that is not blank.

* `readKek?_trim_append_cons`, `readKek?_trim_eq_none_iff`: what is read from a piece.
* `ArePieces.readKeks?_eq`: what is read from a text, piece by piece.
* `reads_keks_back`: reading undoes writing, and fails only where an equals sign is missing.
-/

namespace Lorawan

open Text

/-- Whether the parts of an entry can be told apart again where it is written. -/
structure KekEntry.IsPlain (e : KekEntry) : Prop where
  label_comma : ',' ∉ e.label.toList
  label_equals : '=' ∉ e.label.toList
  label_trimmed : IsTrimmed e.label.toList
  kek_comma : ',' ∉ e.kek.toList
  kek_trimmed : IsTrimmed e.kek.toList

namespace Settings

/-! ## Single entries -/

/-- Whether a piece of a text is an entry, with white space around its label, its key and itself. -/
def WritesEntry (piece : List Char) (e : KekEntry) : Prop :=
  ∃ label kek, IsSpaced e.label.toList label ∧ IsSpaced e.kek.toList kek ∧
    IsSpaced (label ++ '=' :: kek) piece

/-- What is read from a piece: what stands before its first equals sign and after it. -/
theorem readKek?_trim_append_cons {before : List Char} (hBefore : '=' ∉ before) (after : List Char) :
    readKek? (trim (before ++ '=' :: after)) =
      some ⟨String.ofList (trim before), String.ofList (trim after)⟩ := by
  obtain ⟨left, right, hLeft, hRight, hEq⟩ := isSpaced_trim (before ++ '=' :: after)
  have hMem : '=' ∈ trim (before ++ '=' :: after) :=
    (mem_trim_iff rfl).mpr (List.mem_append_right before List.mem_cons_self)
  obtain ⟨before', after', hTrim, hBefore'⟩ := List.eq_append_cons_of_mem hMem
  -- the first equals sign stays the first one when white space is taken off
  have hFirst : '=' ∉ left ++ before' := by
    rw [List.mem_append, not_or]
    exact ⟨hLeft.notMem rfl, hBefore'⟩
  have hSame : before ++ '=' :: after = left ++ before' ++ '=' :: (after' ++ right) := by
    rw [hEq, hTrim]
    simp
  have hParts := splitFirst?_append_cons hBefore after
  rw [hSame, splitFirst?_append_cons hFirst] at hParts
  cases hParts
  have hLabel : IsSpaced before' (left ++ before') := ⟨left, [], hLeft, .nil, by simp⟩
  have hKek : IsSpaced after' (after' ++ right) := ⟨[], right, .nil, hRight, by simp⟩
  rw [readKek?, hTrim, splitFirst?_append_cons hBefore', hLabel.trim_eq_trim, hKek.trim_eq_trim]
  rfl

theorem readKek?_trim_eq_none_iff {piece : List Char} : readKek? (trim piece) = none ↔ '=' ∉ piece := by
  rw [readKek?, Option.map_eq_none_iff, splitFirst?_eq_none_iff, mem_trim_iff rfl]

/-- Reading an entry that was written gives it back. -/
theorem WritesEntry.readKek?_trim {piece : List Char} {e : KekEntry} (h : WritesEntry piece e)
    (hPlain : e.IsPlain) : readKek? (trim piece) = some e := by
  obtain ⟨label, kek, hLabel, hKek, hPiece⟩ := h
  have hBefore : '=' ∉ label := by
    rw [← mem_trim_iff rfl, hLabel.trim_eq hPlain.label_trimmed]
    exact hPlain.label_equals
  rw [hPiece.trim_eq_trim, readKek?_trim_append_cons hBefore, hLabel.trim_eq hPlain.label_trimmed,
    hKek.trim_eq hPlain.kek_trimmed, String.ofList_toList, String.ofList_toList]

/-- What is read from a piece is an entry that the piece writes. -/
theorem writesEntry_of_readKek? {piece : List Char} {e : KekEntry} (hComma : ',' ∉ piece)
    (h : readKek? (trim piece) = some e) : WritesEntry piece e ∧ e.IsPlain := by
  have hMem : '=' ∈ piece := by
    by_contra hMem
    rw [readKek?_trim_eq_none_iff.mpr hMem] at h
    cases h
  -- the piece is cut at its first sign, and each side is trimmed
  obtain ⟨before, after, rfl, hBefore⟩ := List.eq_append_cons_of_mem hMem
  rw [readKek?_trim_append_cons hBefore] at h
  cases h
  rw [List.mem_append, List.mem_cons, not_or, not_or] at hComma
  refine ⟨⟨before, after, ?_, ?_, [], [], .nil, .nil, by simp⟩, ?_, ?_, ?_, ?_, ?_⟩
  all_goals rw [String.toList_ofList]
  · exact isSpaced_trim before
  · exact isSpaced_trim after
  · exact fun h => hComma.1 ((mem_trim_iff rfl).mp h)
  · exact fun h => hBefore ((mem_trim_iff rfl).mp h)
  · exact isTrimmed_trim before
  · exact fun h => hComma.2.2 ((mem_trim_iff rfl).mp h)
  · exact isTrimmed_trim after

/-! ## Lists of entries -/

/-- Whether some pieces are entries in their order, with blank pieces anywhere between them. -/
inductive WritesEntries : List (List Char) → List KekEntry → Prop
  | nil : WritesEntries [] []
  | blank {piece : List Char} {pieces : List (List Char)} {entries : List KekEntry}
      (hPiece : IsBlankText piece) (hRest : WritesEntries pieces entries) :
      WritesEntries (piece :: pieces) entries
  | entry {piece : List Char} {pieces : List (List Char)} {e : KekEntry} {entries : List KekEntry}
      (hPiece : WritesEntry piece e) (hRest : WritesEntries pieces entries) :
      WritesEntries (piece :: pieces) (e :: entries)

/-- Whether some texts are the pieces between the commas of a text. -/
structure ArePieces (pieces : List (List Char)) (text : String) : Prop where
  nonempty : pieces ≠ []
  comma : ∀ piece ∈ pieces, ',' ∉ piece
  join_eq : text.toList = join ',' pieces

/-- The pieces that are not blank. -/
def written (pieces : List (List Char)) : List (List Char) := pieces.filter fun piece => ¬IsBlankText piece

theorem filter_map_trim (pieces : List (List Char)) :
    (pieces.map trim).filter (fun cs => !cs.isEmpty) = (written pieces).map trim := by
  have hEach : ∀ piece ∈ pieces,
      ((fun cs : List Char => !cs.isEmpty) ∘ trim) piece = decide (¬IsBlankText piece) := by
    intro piece _
    rw [Bool.eq_iff_iff, decide_eq_true_eq, ← trim_eq_nil_iff, Function.comp_apply, Bool.not_eq_true',
      List.isEmpty_eq_false_iff]
  rw [written, List.filter_map, List.filter_congr hEach]

/-- What is read from a text, piece by piece. -/
theorem ArePieces.readKeks?_eq {pieces : List (List Char)} {text : String} (h : ArePieces pieces text) :
    readKeks? text = (written pieces).mapM fun piece => readKek? (trim piece) := by
  rw [readKeks?, h.join_eq, split_join h.nonempty h.comma, filter_map_trim, List.mapM_map]
  rfl

theorem mapM_eq_some_iff {f : α → Option β} {as : List α} {bs : List β} :
    as.mapM f = some bs ↔ List.Forall₂ (fun a b => f a = some b) as bs := by
  induction as generalizing bs with
  | nil => cases bs <;> simp
  | cons a as ih =>
    cases hFirst : f a with
    | none => cases bs <;> simp [hFirst]
    | some b =>
      cases bs with
      | nil => cases hRest : as.mapM f <;> simp [hFirst, hRest]
      | cons b' bs =>
        rw [List.forall₂_cons, ← ih]
        cases hRest : as.mapM f <;> simp [hFirst, hRest]

theorem mapM_eq_none_iff {f : α → Option β} {as : List α} : as.mapM f = none ↔ ∃ a ∈ as, f a = none := by
  induction as with
  | nil => simp
  | cons a as ih =>
    rw [List.exists_mem_cons_iff, ← ih]
    cases hFirst : f a with
    | none => simp [hFirst]
    | some b => cases hRest : as.mapM f <;> simp [hFirst, hRest]

/-- Reading the pieces of a list that was written, white space and blank pieces left out, gives it back. -/
theorem WritesEntries.mapM_written {pieces : List (List Char)} {entries : List KekEntry}
    (h : WritesEntries pieces entries) (hPlain : ∀ e ∈ entries, e.IsPlain) :
    (written pieces).mapM (fun piece => readKek? (trim piece)) = some entries := by
  rw [mapM_eq_some_iff]
  induction h with
  | nil => exact .nil
  | blank hPiece _ ih =>
    rw [written, List.filter_cons_of_neg (by simpa using hPiece)]
    exact ih hPlain
  | @entry piece pieces e entries hPiece _ ih =>
    obtain ⟨hFirst, hLater⟩ := List.forall_mem_cons.mp hPlain
    have hRead := hPiece.readKek?_trim hFirst
    have hMem : '=' ∈ piece := by
      by_contra hMem
      rw [readKek?_trim_eq_none_iff.mpr hMem] at hRead
      cases hRead
    -- a piece with a sign in it is not blank, so it is kept
    have hBlank : ¬IsBlankText piece := fun hBlank => hBlank.notMem rfl hMem
    rw [written, List.filter_cons_of_pos (by simpa using hBlank)]
    exact .cons hRead (ih hLater)

theorem WritesEntry.notMem_comma {piece : List Char} {e : KekEntry} (h : WritesEntry piece e)
    (hPlain : e.IsPlain) : ',' ∉ piece := by
  obtain ⟨label, kek, hLabel, hKek, hPiece⟩ := h
  have hLabelComma : ',' ∉ label := by
    rw [← mem_trim_iff rfl, hLabel.trim_eq hPlain.label_trimmed]
    exact hPlain.label_comma
  have hKekComma : ',' ∉ kek := by
    rw [← mem_trim_iff rfl, hKek.trim_eq hPlain.kek_trimmed]
    exact hPlain.kek_comma
  rw [← mem_trim_iff rfl, hPiece.trim_eq_trim, mem_trim_iff rfl, List.mem_append, List.mem_cons, not_or,
    not_or]
  exact ⟨hLabelComma, by decide, hKekComma⟩

theorem WritesEntries.notMem_comma {pieces : List (List Char)} {entries : List KekEntry}
    (h : WritesEntries pieces entries) (hPlain : ∀ e ∈ entries, e.IsPlain) :
    ∀ piece ∈ pieces, ',' ∉ piece := by
  induction h with
  | nil => exact fun _ h => absurd h List.not_mem_nil
  | blank hPiece _ ih => exact List.forall_mem_cons.mpr ⟨hPiece.notMem rfl, ih hPlain⟩
  | entry hPiece _ ih =>
    obtain ⟨hFirst, hLater⟩ := List.forall_mem_cons.mp hPlain
    exact List.forall_mem_cons.mpr ⟨hPiece.notMem_comma hFirst, ih hLater⟩

theorem WritesEntries.readKeks?_eq {pieces : List (List Char)} {entries : List KekEntry} {text : String}
    (h : WritesEntries pieces entries) (hPlain : ∀ e ∈ entries, e.IsPlain)
    (hText : text.toList = join ',' pieces) : readKeks? text = some entries := by
  by_cases hNil : pieces = []
  · -- no pieces and one blank piece are written alike
    subst hNil
    cases h
    have hPieces : ArePieces [[]] text :=
      ⟨List.cons_ne_nil [] [], fun piece h => List.mem_singleton.mp h ▸ List.not_mem_nil, hText⟩
    have hWritten : written [[]] = [] := List.filter_cons_of_neg (by simpa using IsBlankText.nil)
    rw [hPieces.readKeks?_eq, hWritten]
    exact List.mapM_nil
  · have hPieces : ArePieces pieces text := ⟨hNil, h.notMem_comma hPlain, hText⟩
    rw [hPieces.readKeks?_eq, h.mapM_written hPlain]

theorem arePieces_split (text : String) : ArePieces (split ',' text.toList) text where
  nonempty := split_ne_nil ',' text.toList
  comma _ h := notMem_of_mem_split h
  join_eq := (join_split ',' text.toList).symm

theorem ArePieces.readKeks?_eq_none_iff {pieces : List (List Char)} {text : String}
    (h : ArePieces pieces text) :
    readKeks? text = none ↔ ∃ piece ∈ pieces, ¬IsBlankText piece ∧ '=' ∉ piece := by
  rw [h.readKeks?_eq, mapM_eq_none_iff]
  simp only [written, List.mem_filter, decide_eq_true_eq, readKek?_trim_eq_none_iff, and_assoc]

theorem ArePieces.forall₂_of_readKeks? {pieces : List (List Char)} {text : String}
    {entries : List KekEntry} (h : ArePieces pieces text) (hRead : readKeks? text = some entries) :
    List.Forall₂ (fun piece e => WritesEntry piece e ∧ e.IsPlain) (written pieces) entries := by
  rw [h.readKeks?_eq, mapM_eq_some_iff] at hRead
  have hComma : ∀ piece ∈ written pieces, ',' ∉ piece := fun piece hMem =>
    h.comma piece (List.mem_of_mem_filter hMem)
  refine ((List.forall₂_and_left (written pieces) entries).mpr ⟨hComma, hRead⟩).imp fun piece e hPiece => ?_
  exact writesEntry_of_readKek? hPiece.1 hPiece.2

/-- Reading the list of keys gives back what was written, whatever white space and blank entries were
written with it.  Any text at all has its pieces: reading fails just where one of them is neither blank nor
has an equals sign, and otherwise gives one entry for each piece that is not blank. -/
theorem reads_keks_back (s : Settings) :
    (∀ pieces entries, WritesEntries pieces entries → (∀ e ∈ entries, e.IsPlain) →
      s.kekSet.toList = join ',' pieces → s.keks? = some entries) ∧
    (∃ pieces, ArePieces pieces s.kekSet) ∧
    ∀ pieces, ArePieces pieces s.kekSet →
      (s.keks? = none ↔ ∃ piece ∈ pieces, ¬IsBlankText piece ∧ '=' ∉ piece) ∧
      ∀ entries, s.keks? = some entries →
        List.Forall₂ (fun piece e => WritesEntry piece e ∧ e.IsPlain) (written pieces) entries := by
  refine ⟨fun pieces entries h hPlain hText => h.readKeks?_eq hPlain hText,
    ⟨_, arePieces_split s.kekSet⟩, fun pieces h => ⟨h.readKeks?_eq_none_iff, fun entries hRead => ?_⟩⟩
  exact h.forall₂_of_readKeks? hRead

example : readKeks? " a = 00 , ,=b=" = some [⟨"a", "00"⟩, ⟨"", "b="⟩] := by decide +kernel

end Settings

end Lorawan
