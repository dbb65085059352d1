/-!
# Tables

Rows by key, in the order in which their keys were first inserted.  Main statement: a look-up after an
insertion finds the new row under its key, and the old rows under all others (`get?_insert`).
-/

namespace Lorawan

/-- Rows by key. -/
structure Table (κ ν : Type) where
  rows : List (κ × ν)
  deriving Repr

namespace Table

variable {κ ν : Type} [DecidableEq κ]

/-- The table without rows. -/
def empty : Table κ ν := ⟨[]⟩

instance : Inhabited (Table κ ν) := ⟨empty⟩

/-- The row of a key. -/
def get? (t : Table κ ν) (key : κ) : Option ν := t.rows.lookup key

/-- The rows with one more, which takes the place of a row with the same key. -/
def insertRow (key : κ) (row : ν) : List (κ × ν) → List (κ × ν)
  | [] => [(key, row)]
  | (k, r) :: rest => if k = key then (key, row) :: rest else (k, r) :: insertRow key row rest

/-- The table with one more row, which takes the place of a row with the same key. -/
def insert (t : Table κ ν) (key : κ) (row : ν) : Table κ ν := ⟨insertRow key row t.rows⟩

/-- The table with some more rows. -/
def insertAll (t : Table κ ν) (rows : List (κ × ν)) : Table κ ν :=
  rows.foldl (fun t (key, row) => t.insert key row) t

theorem lookup_insertRow (key k : κ) (row : ν) (rows : List (κ × ν)) :
    (insertRow key row rows).lookup k = if k = key then some row else rows.lookup k := by
  induction rows with
  | nil =>
    by_cases h : k = key
    · simp [insertRow, h]
    · simp [insertRow, List.lookup_cons, h, beq_eq_false_iff_ne.2 h]
  | cons r rest ih =>
    obtain ⟨k', r⟩ := r
    by_cases h' : k' = key
    · subst h'
      by_cases h : k = k'
      · simp [insertRow, h]
      · simp [insertRow, List.lookup_cons, h, beq_eq_false_iff_ne.2 h]
    · by_cases h : k = k'
      · subst h
        simp [insertRow, h']
      · simp [insertRow, List.lookup_cons, h', ih, beq_eq_false_iff_ne.2 h]

@[simp] theorem get?_empty (k : κ) : (empty : Table κ ν).get? k = none := rfl

theorem get?_insert (t : Table κ ν) (key k : κ) (row : ν) :
    (t.insert key row).get? k = if k = key then some row else t.get? k :=
  lookup_insertRow key k row t.rows

@[simp] theorem get?_insert_self (t : Table κ ν) (key : κ) (row : ν) :
    (t.insert key row).get? key = some row := by
  simp [get?_insert]

end Table

end Lorawan
