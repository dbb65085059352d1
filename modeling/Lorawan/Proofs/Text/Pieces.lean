import Mathlib.Data.List.TakeWhile
import Lorawan.Text.Blank
import Lorawan.Text.Split

/-!
# Splitting and trimming

The pieces of a text are determined by what they join to, and what stands before and after a mark by where
the first mark is.  A text without white space at its ends is what trimming leaves of it, whatever white
space stands around it.

* `split_join`: the pieces of a text.
* `splitFirst?_append_cons`, `splitFirst?_eq_none_iff`: what stands before and after the first mark.
* `IsSpaced.trim_eq_trim`, `isSpaced_trim`, `isTrimmed_trim`: what trimming leaves.
-/

namespace Lorawan.Text

/-! ## Pieces -/

theorem split_of_notMem {mark : Char} {piece : List Char} (h : mark ∉ piece) :
    split mark piece = [piece] := by
  induction piece with
  | nil => rfl
  | cons c cs ih =>
    rw [List.mem_cons, not_or] at h
    rw [split, if_neg (Ne.symm h.1), ih h.2]

theorem split_append_cons {mark : Char} {piece : List Char} (h : mark ∉ piece) (rest : List Char) :
    split mark (piece ++ mark :: rest) = piece :: split mark rest := by
  induction piece with
  | nil => rw [List.nil_append, split, if_pos rfl]
  | cons c cs ih =>
    rw [List.mem_cons, not_or] at h
    rw [List.cons_append, split, if_neg (Ne.symm h.1), ih h.2]

theorem join_eq_intercalate (mark : Char) (pieces : List (List Char)) :
    join mark pieces = [mark].intercalate pieces := by
  fun_induction join mark pieces with
  | case1 => rfl
  | case2 piece => simp
  | case3 piece rest hRest ih =>
    obtain ⟨next, later, rfl⟩ := List.exists_cons_of_ne_nil hRest
    rw [List.intercalate_cons_cons, ih, List.append_assoc, List.singleton_append]

/-- A text is split at a mark that stands in it, and so are both sides of it. -/
theorem split_append_mark (mark : Char) (before after : List Char) :
    split mark (before ++ mark :: after) = split mark before ++ split mark after := by
  induction before with
  | nil => simp [split]
  | cons c cs ih =>
    rw [List.cons_append, split, split, ih]
    by_cases hMark : c = mark
    · rw [if_pos hMark, if_pos hMark, List.cons_append]
    · rw [if_neg hMark, if_neg hMark]
      cases hSplit : split mark cs with
      | nil => exact absurd hSplit (split_ne_nil mark cs)
      | cons piece rest => rfl

/-- Pieces without the mark are those of the text that they join to. -/
theorem split_join {mark : Char} {pieces : List (List Char)} (hNil : pieces ≠ [])
    (h : ∀ piece ∈ pieces, mark ∉ piece) : split mark (join mark pieces) = pieces := by
  fun_induction join mark pieces with
  | case1 => exact absurd rfl hNil
  | case2 piece => exact split_of_notMem (h piece List.mem_cons_self)
  | case3 piece rest hRest ih =>
    obtain ⟨hFirst, hLater⟩ := List.forall_mem_cons.mp h
    rw [split_append_cons hFirst, ih (fun hEq => hRest hEq) hLater]

theorem notMem_of_mem_split {mark : Char} {cs piece : List Char} (h : piece ∈ split mark cs) :
    mark ∉ piece := by
  induction cs generalizing piece with
  | nil =>
    obtain rfl := List.mem_singleton.mp h
    exact List.not_mem_nil
  | cons c cs ih =>
    by_cases hMark : c = mark
    · rw [split, if_pos hMark] at h
      rcases List.mem_cons.mp h with rfl | hRest
      · exact List.not_mem_nil
      · exact ih hRest
    · rw [split, if_neg hMark] at h
      -- any other character is put in front of the first piece of the rest
      cases hSplit : split mark cs with
      | nil => exact absurd hSplit (split_ne_nil mark cs)
      | cons first rest =>
        rw [hSplit] at h ih
        rcases List.mem_cons.mp h with rfl | hRest
        · rw [List.mem_cons, not_or]
          exact ⟨Ne.symm hMark, ih List.mem_cons_self⟩
        · exact ih (List.mem_cons_of_mem first hRest)

theorem mem_of_mem_split {mark c : Char} {cs piece : List Char} (hPiece : piece ∈ split mark cs)
    (hc : c ∈ piece) : c ∈ cs := by
  induction cs generalizing piece with
  | nil =>
    rw [split, List.mem_singleton] at hPiece
    exact hPiece ▸ hc
  | cons d cs ih =>
    rw [split] at hPiece
    split at hPiece
    · rcases List.mem_cons.mp hPiece with rfl | hRest
      · exact absurd hc List.not_mem_nil
      · exact List.mem_cons_of_mem d (ih hRest hc)
    · cases hSplit : split mark cs with
      | nil => exact absurd hSplit (split_ne_nil mark cs)
      | cons first rest =>
        rw [hSplit] at hPiece ih
        rcases List.mem_cons.mp hPiece with rfl | hRest
        · exact List.mem_cons.mpr ((List.mem_cons.mp hc).imp_right (ih List.mem_cons_self))
        · exact List.mem_cons_of_mem d (ih (List.mem_cons_of_mem first hRest) hc)

/-! ## The first mark -/

theorem splitFirst?_eq_none_iff {mark : Char} {cs : List Char} :
    splitFirst? mark cs = none ↔ mark ∉ cs := by
  induction cs with
  | nil => simp [splitFirst?]
  | cons c cs ih =>
    rw [splitFirst?, List.mem_cons, not_or]
    by_cases hMark : c = mark
    · simp [hMark]
    · rw [if_neg hMark, Option.map_eq_none_iff, ih]
      exact (and_iff_right (Ne.symm hMark)).symm

theorem splitFirst?_append_cons {mark : Char} {before : List Char} (h : mark ∉ before)
    (after : List Char) : splitFirst? mark (before ++ mark :: after) = some (before, after) := by
  induction before with
  | nil => rw [List.nil_append, splitFirst?, if_pos rfl]
  | cons c cs ih =>
    rw [List.mem_cons, not_or] at h
    rw [List.cons_append, splitFirst?, if_neg (Ne.symm h.1), ih h.2]
    rfl

/-! ## White space -/

/-- Whether a text is white space all over. -/
def IsBlankText (cs : List Char) : Prop := ∀ c ∈ cs, isBlank c = true

instance : DecidablePred IsBlankText := fun cs =>
  inferInstanceAs (Decidable (∀ c ∈ cs, isBlank c = true))

theorem IsBlankText.nil : IsBlankText [] := fun _ h => absurd h List.not_mem_nil

theorem IsBlankText.notMem {cs : List Char} (h : IsBlankText cs) {c : Char} (hc : isBlank c = false) :
    c ∉ cs := by
  intro hMem
  rw [h c hMem] at hc
  cases hc

/-- Whether a text has no white space at either end. -/
structure IsTrimmed (cs : List Char) : Prop where
  start : ∀ c ∈ cs.head?, isBlank c = false
  finish : ∀ c ∈ cs.getLast?, isBlank c = false

/-- Whether a text is another one with white space around it. -/
def IsSpaced (inner outer : List Char) : Prop :=
  ∃ left right, IsBlankText left ∧ IsBlankText right ∧ outer = left ++ inner ++ right

theorem trimStart_append {left : List Char} (h : IsBlankText left) (cs : List Char) :
    trimStart (left ++ cs) = trimStart cs :=
  List.dropWhile_append_of_pos h

theorem trimEnd_append {right : List Char} (h : IsBlankText right) (cs : List Char) :
    trimEnd (cs ++ right) = trimEnd cs := by
  have hReverse : ∀ c ∈ right.reverse, isBlank c = true := fun c hc => h c (List.mem_reverse.mp hc)
  rw [trimEnd, List.reverse_append, List.dropWhile_append_of_pos hReverse]
  rfl

theorem trimStart_eq_self {cs : List Char} (h : ∀ c ∈ cs.head?, isBlank c = false) :
    trimStart cs = cs := by
  cases cs with
  | nil => rfl
  | cons c cs => rw [trimStart, List.dropWhile_cons_of_neg (by rw [h c rfl]; decide)]

theorem trimEnd_eq_self {cs : List Char} (h : ∀ c ∈ cs.getLast?, isBlank c = false) :
    trimEnd cs = cs := by
  rw [← List.head?_reverse] at h
  have hStart := trimStart_eq_self h
  rw [trimStart] at hStart
  rw [trimEnd, hStart, List.reverse_reverse]

/-- A trimmed text is what is left of it when white space around it is taken off. -/
theorem IsSpaced.trim_eq {inner outer : List Char} (h : IsSpaced inner outer) (hInner : IsTrimmed inner) :
    trim outer = inner := by
  obtain ⟨left, right, hLeft, hRight, rfl⟩ := h
  rw [trim, List.append_assoc, trimStart_append hLeft]
  -- where there is no text between them, the white space on the right goes with that on the left
  cases inner with
  | nil =>
    have hAll := trimStart_append hRight []
    rw [List.append_nil] at hAll
    rw [List.nil_append, hAll]
    rfl
  | cons c cs =>
    have hStart : trimStart (c :: cs ++ right) = c :: cs ++ right := trimStart_eq_self hInner.start
    rw [hStart, trimEnd_append hRight, trimEnd_eq_self hInner.finish]

theorem isSpaced_trim (cs : List Char) : IsSpaced (trim cs) cs := by
  refine ⟨cs.takeWhile isBlank, ((trimStart cs).reverse.takeWhile isBlank).reverse, ?_, ?_, ?_⟩
  · exact fun c hc => List.mem_takeWhile_imp hc
  · exact fun c hc => List.mem_takeWhile_imp (List.mem_reverse.mp hc)
  · rw [trim, trimEnd, List.append_assoc, ← List.reverse_append, List.takeWhile_append_dropWhile,
      List.reverse_reverse, trimStart, List.takeWhile_append_dropWhile]

theorem isBlank_of_mem_head?_dropWhile {cs : List Char} {c : Char}
    (h : c ∈ (cs.dropWhile isBlank).head?) : isBlank c = false := by
  have hFirst := List.head?_dropWhile_not isBlank cs
  rw [Option.mem_def.mp h] at hFirst
  exact hFirst

theorem isTrimmed_trim (cs : List Char) : IsTrimmed (trim cs) where
  start c hc := by
    have hPrefix : trim cs <+: trimStart cs := by
      rw [trim, trimEnd, ← List.reverse_suffix, List.reverse_reverse]
      exact List.dropWhile_suffix isBlank
    obtain ⟨rest, hRest⟩ := hPrefix
    have hFirst : c ∈ (trimStart cs).head? := by
      rw [← hRest, List.head?_append, Option.mem_def.mp hc]
      rfl
    exact isBlank_of_mem_head?_dropWhile hFirst
  finish c hc := by
    rw [trim, trimEnd, List.getLast?_reverse] at hc
    exact isBlank_of_mem_head?_dropWhile hc

theorem IsSpaced.trans {inner middle outer : List Char} (h : IsSpaced inner middle)
    (h' : IsSpaced middle outer) : IsSpaced inner outer := by
  obtain ⟨left, right, hLeft, hRight, rfl⟩ := h
  obtain ⟨left', right', hLeft', hRight', rfl⟩ := h'
  exact ⟨left' ++ left, right ++ right', List.forall_mem_append.mpr ⟨hLeft', hLeft⟩,
    List.forall_mem_append.mpr ⟨hRight, hRight'⟩, by simp⟩

/-- White space around a text makes no difference to what trimming leaves. -/
theorem IsSpaced.trim_eq_trim {inner outer : List Char} (h : IsSpaced inner outer) :
    trim outer = trim inner :=
  ((isSpaced_trim inner).trans h).trim_eq (isTrimmed_trim inner)

theorem trim_eq_nil_iff {cs : List Char} : trim cs = [] ↔ IsBlankText cs := by
  constructor
  · intro h
    obtain ⟨left, right, hLeft, hRight, hEq⟩ := isSpaced_trim cs
    rw [h, List.append_nil] at hEq
    rw [hEq]
    exact List.forall_mem_append.mpr ⟨hLeft, hRight⟩
  · intro h
    exact IsSpaced.trim_eq ⟨cs, [], h, .nil, by simp⟩ ⟨nofun, nofun⟩

/-- A character that is no white space is in a text just if it is in what trimming leaves. -/
theorem mem_trim_iff {cs : List Char} {c : Char} (hc : isBlank c = false) : c ∈ trim cs ↔ c ∈ cs := by
  obtain ⟨left, right, hLeft, hRight, hEq⟩ := isSpaced_trim cs
  have hAll : c ∈ cs ↔ c ∈ left ++ trim cs ++ right := by rw [← hEq]
  rw [hAll, List.mem_append, List.mem_append, or_iff_left (hRight.notMem hc),
    or_iff_right (hLeft.notMem hc)]

end Lorawan.Text
