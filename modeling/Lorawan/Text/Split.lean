/-!
# Pieces of a text

A text between the places where a character stands.  Main statement: the pieces joined by that character
are the text again (`join_split`).
-/

namespace Lorawan.Text

/-- The pieces between the places where a character stands; there is always at least one. -/
def split (mark : Char) : List Char → List (List Char)
  | [] => [[]]
  | c :: cs =>
    if c = mark then [] :: split mark cs
    else
      match split mark cs with
      | [] => [[c]]
      | piece :: rest => (c :: piece) :: rest

/-- The pieces without the last one if that is empty. -/
def splitTerminated (mark : Char) (cs : List Char) : List (List Char) :=
  let pieces := split mark cs
  if pieces.getLast? = some [] then pieces.dropLast else pieces

/-- What stands before and after the first place where a character stands. -/
def splitFirst? (mark : Char) : List Char → Option (List Char × List Char)
  | [] => none
  | c :: cs =>
    if c = mark then some ([], cs)
    else (splitFirst? mark cs).map fun (before, after) => (c :: before, after)

/-- Pieces with a character between them. -/
def join (mark : Char) : List (List Char) → List Char
  | [] => []
  | [piece] => piece
  | piece :: rest => piece ++ mark :: join mark rest

theorem split_ne_nil (mark : Char) (cs : List Char) : split mark cs ≠ [] := by
  fun_induction split mark cs <;> simp_all

@[simp] theorem join_split (mark : Char) (cs : List Char) : join mark (split mark cs) = cs := by
  fun_induction split mark cs with
  | case1 => rfl
  | case2 cs ih =>
    cases h : split mark cs with
    | nil => exact absurd h (split_ne_nil mark cs)
    | cons piece rest => simp [join, ← h, ih]
  | case3 c cs _ h ih => exact absurd h (split_ne_nil mark cs)
  | case4 c cs _ piece rest h ih =>
    rw [h] at ih
    cases rest with
    | nil => simpa [join] using ih
    | cons p ps => simpa [join] using ih

end Lorawan.Text
