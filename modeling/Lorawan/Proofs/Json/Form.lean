import Mathlib.Data.List.Forall2
import Lorawan.Proofs.Decimal.Digits
import Lorawan.Proofs.Json.Whole
import Lorawan.Proofs.Text.Base64
import Lorawan.Proofs.Text.Identifier

/-!
# Forms

A form says how the values of a type may be written down, and what counts as a fault (`Form`).  A reader
honours a form if it reads every value from everything it may be written as, and reads nothing where there is
a fault (`Reader.Honours`).

* `honours_int` and its like: numbers, texts and byte strings.  Integers have a range, and identifiers may be
  written in either case.
* `Reader.Honours.list`: lists of what is read so.
-/

namespace Lorawan.Json

open Outline

/-- How values of a type are written down, and what counts as a fault in one. -/
structure Form (α : Type) where
  Writes : α → Outline → Prop
  Faults : Outline → Prop

/-- Whether a reader reads every value from whatever it may be written as, and reads nothing where there is
a fault.  No value is written as null. -/
structure Reader.Honours (reader : Reader α) (form : Form α) : Prop where
  reads : ∀ a o, o.IsWhole → form.Writes a o → reader o = .ok a
  rejects : ∀ o, form.Faults o → ∀ a, reader o ≠ .ok a
  given : ∀ a, ¬form.Writes a .null

/-! ## Outcomes -/

theorem exists_of_bind_eq_ok {x : Except ε α} {f : α → Except ε β} {b : β} (h : (x >>= f) = .ok b) :
    ∃ a, x = .ok a ∧ f a = .ok b := by
  cases x with
  | error e => cases h
  | ok a => exact ⟨a, rfl, h⟩

theorem exists_of_map_eq_ok {x : Except ε α} {f : α → β} {b : β} (h : f <$> x = .ok b) :
    ∃ a, x = .ok a ∧ f a = b := by
  cases x with
  | error e => cases h
  | ok a => exact ⟨a, rfl, Except.ok.inj h⟩

/-! ## Values without parts -/

namespace Form

/-- Integers of a range.  An integer outside it is a fault, however large it is. -/
def int (toInt : α → Int) (lowest highest : Int) : Form α where
  Writes a o := ∃ n, o = .number n ∧ n.Denotes (toInt a)
  Faults o := ∃ n k, o = .number n ∧ n.Denotes k ∧ ¬(lowest ≤ k ∧ k ≤ highest)

def uint8 : Form UInt8 := int (fun n => n.toNat) 0 255

def uint32 : Form UInt32 := int (fun n => n.toNat) 0 4294967295

def int32 : Form Int32 := int Int32.toInt (-2147483648) 2147483647

def int64 : Form Int64 := int Int64.toInt (-9223372036854775808) 9223372036854775807

/-- Doubles: a numeral that stands for the double, or for an integer to which it is the nearest. -/
def double : Form Float where
  Writes x o := ∃ n, o = .number n ∧
    (n.value? = some (.float x) ∨ ∃ k, n.value? = some (.int k) ∧ Float.ofInt k = x)
  Faults _ := False

def bool : Form Bool where
  Writes b o := o = .bool b
  Faults _ := False

def text : Form String where
  Writes s o := o = .text (some s)
  Faults _ := False

/-- Identifiers, in lower or upper case. -/
def identifier (kind : IdentifierKind) : Form (Identifier kind) where
  Writes id o := ∃ s : String, o = .text (some s) ∧ s.toLower = id.text
  Faults _ := False

def base64 : Form (List UInt8) where
  Writes bs o := o = .text (some (Base64.encode bs))
  Faults _ := False

/-- Lists.  An item with a fault is a fault of the list. -/
def list (form : Form α) : Form (List α) where
  Writes as o := ∃ items, o = .array items true ∧ List.Forall₂ form.Writes as items
  Faults o := ∃ items, o = .array items true ∧ ∃ item ∈ items, form.Faults item

/-- The values of one type as values of another. -/
def map (f : α → β) (form : Form α) : Form β where
  Writes b o := ∃ a, b = f a ∧ form.Writes a o
  Faults := form.Faults

end Form

/-! ### Numbers -/

theorem readInt_eq_ok {o : Outline} {k : Int} (h : readInt o = .ok k) :
    ∃ n, o = .number n ∧ n.value? = some (.int k) := by
  unfold readInt at h
  split at h
  · next n =>
    split at h
    · next k' hValue =>
      cases h
      exact ⟨n, rfl, hValue⟩
    · cases h
    · cases h
  · cases h

theorem honours_int {toInt : α → Int} {ofInt : Int → α} {lowest highest : Int}
    (hBack : ∀ a, ofInt (toInt a) = a) (hRange : ∀ a, lowest ≤ toInt a ∧ toInt a ≤ highest)
    (hLowest : Int64.minValue.toInt ≤ lowest) (hHighest : highest < UInt64.size) :
    Reader.Honours (fun o => ofInt <$> readIntIn lowest highest o) (Form.int toInt lowest highest) where
  reads := by
    rintro a _ - ⟨n, rfl, hDenotes⟩
    obtain ⟨hLow, hHigh⟩ := hRange a
    have hValue := hDenotes.value? (Int.le_trans hLowest hLow) (Int.lt_of_le_of_lt hHigh hHighest)
    have hInt : readInt (.number n) = .ok (toInt a) := by rw [readInt, hValue]
    have hRead : readIntIn lowest highest (.number n) = .ok (toInt a) := by
      rw [readIntIn, hInt]
      exact if_pos ⟨hLow, hHigh⟩
    rw [hRead]
    exact congrArg Except.ok (hBack a)
  rejects := by
    rintro _ ⟨n, k, rfl, hDenotes, hOutside⟩ a hRead
    obtain ⟨k', hIn, -⟩ := exists_of_map_eq_ok hRead
    obtain ⟨k'', hInt, hCheck⟩ := exists_of_bind_eq_ok hIn
    obtain ⟨_, hNumber, hValue⟩ := readInt_eq_ok hInt
    cases hNumber
    -- if it were read at all, it would be as itself
    obtain rfl := hDenotes.eq_of_value? hValue
    rw [if_neg hOutside] at hCheck
    cases hCheck
  given := by
    rintro a ⟨n, hNull, -⟩
    cases hNull

theorem honours_uint8 : Reader.Honours readUInt8 .uint8 := by
  refine honours_int (fun n => UInt8.ofNat_toNat) (fun n => ?_) (by decide) (by decide)
  have hLt := n.toNat_lt
  have hSize : UInt8.size = 2 ^ 8 := rfl
  omega

theorem honours_uint32 : Reader.Honours readUInt32 .uint32 := by
  refine honours_int (fun n => UInt32.ofNat_toNat) (fun n => ?_) (by decide) (by decide)
  have hLt := n.toNat_lt
  have hSize : UInt32.size = 2 ^ 32 := rfl
  omega

theorem honours_int32 : Reader.Honours readInt32 .int32 :=
  honours_int Int32.ofInt_toInt (fun n => ⟨n.minValue_le_toInt, n.toInt_le⟩) (by decide) (by decide)

theorem honours_int64 : Reader.Honours readInt64 .int64 :=
  honours_int Int64.ofInt_toInt (fun n => ⟨n.minValue_le_toInt, n.toInt_le⟩) (by decide) (by decide)

theorem honours_double : Reader.Honours readFloat .double where
  reads := by
    rintro x _ - ⟨n, rfl, hValue | ⟨k, hValue, rfl⟩⟩
    · rw [readFloat, hValue]
    · rw [readFloat, hValue]
  rejects _ h := h.elim
  given := by
    rintro x ⟨n, hNull, -⟩
    cases hNull

/-! ### Texts -/

theorem honours_bool : Reader.Honours readBool .bool where
  reads := by
    rintro b _ - rfl
    rfl
  rejects _ h := h.elim
  given := nofun

theorem honours_text : Reader.Honours readString .text where
  reads := by
    rintro s _ - rfl
    rfl
  rejects _ h := h.elim
  given := nofun

theorem honours_identifier (kind : IdentifierKind) :
    Reader.Honours (readIdentifier kind) (.identifier kind) where
  reads := by
    rintro id _ - ⟨s, rfl, hLower⟩
    simp only [readIdentifier, readString, bind, Except.bind, Identifier.parse_of_toLower_eq hLower]
    rfl
  rejects _ h := h.elim
  given := by
    rintro x ⟨n, hNull, -⟩
    cases hNull

theorem honours_base64 : Reader.Honours readBase64 .base64 where
  reads := by
    rintro bs _ - rfl
    simp only [readBase64, readString, bind, Except.bind, Base64.decode?_encode]
    rfl
  rejects _ h := h.elim
  given := nofun

/-! ### Lists -/

theorem mapM_of_forall₂ {reader : Reader α} {as : List α} {items : List Outline}
    (h : List.Forall₂ (fun a o => reader o = .ok a) as items) : items.mapM reader = .ok as := by
  induction h with
  | nil => rfl
  | cons hFirst _ ih =>
    rw [List.mapM_cons, hFirst, ih]
    rfl

theorem exists_of_mapM_eq_ok {reader : Reader α} {as : List α} {items : List Outline}
    (h : items.mapM reader = .ok as) : ∀ o ∈ items, ∃ a, reader o = .ok a := by
  induction items generalizing as with
  | nil => exact fun _ h => absurd h List.not_mem_nil
  | cons o items ih =>
    rw [List.mapM_cons] at h
    obtain ⟨a, hFirst, h⟩ := exists_of_bind_eq_ok h
    obtain ⟨rest, hRest, -⟩ := exists_of_bind_eq_ok h
    exact List.forall_mem_cons.mpr ⟨⟨a, hFirst⟩, ih hRest⟩

theorem Reader.Honours.list {reader : Reader α} {form : Form α} (h : reader.Honours form) :
    Reader.Honours (readList reader) form.list where
  reads := by
    rintro as _ hWhole ⟨items, rfl, hItems⟩
    have hEach : List.Forall₂ (fun a o => reader o = .ok a) as items := by
      have hBoth := (List.forall₂_and_left items as).mpr ⟨hWhole.of_mem_array, hItems.flip⟩
      exact hBoth.flip.imp fun a o hEach => h.reads a o hEach.1 hEach.2
    rw [readList, mapM_of_forall₂ hEach]
    rfl
  rejects := by
    rintro _ ⟨items, rfl, o, hMem, hFault⟩ as hRead
    obtain ⟨as', hItems, -⟩ := exists_of_bind_eq_ok hRead
    obtain ⟨a, hItem⟩ := exists_of_mapM_eq_ok hItems o hMem
    exact h.rejects o hFault a hItem
  given := by
    rintro as ⟨items, hNull, -⟩
    cases hNull

theorem Reader.Honours.map {reader : Reader α} {form : Form α} (h : reader.Honours form) (f : α → β) :
    Reader.Honours (fun o => f <$> reader o) (form.map f) where
  reads := by
    rintro _ o hWhole ⟨a, rfl, hWrites⟩
    rw [h.reads a o hWhole hWrites]
    rfl
  rejects := by
    intro o hFault b hRead
    obtain ⟨a, hRead, -⟩ := exists_of_map_eq_ok hRead
    exact h.rejects o hFault a hRead
  given := by
    rintro _ ⟨a, -, hWrites⟩
    exact h.given a hWrites

end Lorawan.Json
