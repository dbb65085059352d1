import Lorawan.Proofs.Json.Form
import Lorawan.Proofs.Json.Order

/-!
# Reading values back

A value that was written is read back from its document.  Whether it is must not depend on the order of
members, so the claim is made for the document in every order at once (`Gives`).

* `readJson_ofJson`: a proper document, by the reader for values of no expected shape.
* `gives_int64` and the like: numbers, texts and byte strings.
* `gives_list`: arrays of what is read back.
-/

namespace Lorawan.Json

open Outline

/-- Whether a document is read as a value, whatever the order of members. -/
def Gives (j : Json) (reader : Reader α) (a : α) : Prop :=
  ∀ j', j.Same j' → reader (ofJson j') = .ok a

theorem gives_of_isAtom {j : Json} {reader : Reader α} {a : α} (hAtom : j.IsAtom)
    (h : reader (ofJson j) = .ok a) : j.Gives reader a := by
  intro j' hSame
  rw [hSame.eq_of_isAtom hAtom, h]

theorem Gives.read {j : Json} {reader : Reader α} {a : α} (h : j.Gives reader a) :
    reader (ofJson j) = .ok a :=
  h j (.refl j)

/-- What is no array or object has no part that could be broken. -/
theorem isWhole_ofJson {j : Json} (hAtom : j.IsAtom) : (ofJson j).IsWhole := by
  cases j with
  | null => exact .null
  | bool b => exact .bool b
  | int n => exact .number _
  | float x => exact .float x
  | text s => exact .text _
  | array items => exact hAtom.elim
  | object members => exact hAtom.elim

theorem Reader.Honours.gives {reader : Reader α} {form : Form α} (h : reader.Honours form) {j : Json} {a : α}
    (hAtom : j.IsAtom) (hWrites : form.Writes a (ofJson j)) : j.Gives reader a :=
  gives_of_isAtom hAtom (h.reads a _ (isWhole_ofJson hAtom) hWrites)

/-! ## Numbers -/

theorem gives_int64 (n : Int64) : (ofInt64 n).Gives readInt64 n :=
  honours_int64.gives trivial ⟨_, rfl, Numeral.denotes_ofInt _⟩

theorem gives_int32 (n : Int32) : (ofInt32 n).Gives readInt32 n :=
  honours_int32.gives trivial ⟨_, rfl, Numeral.denotes_ofInt _⟩

theorem gives_uint32 (n : UInt32) : (ofUInt32 n).Gives readUInt32 n :=
  honours_uint32.gives trivial ⟨_, rfl, Numeral.denotes_ofInt _⟩

theorem gives_uint8 (n : UInt8) : (ofUInt8 n).Gives readUInt8 n :=
  honours_uint8.gives trivial ⟨_, rfl, Numeral.denotes_ofInt _⟩

theorem gives_float {x : Float} (hFinite : x.isFinite = true) : (ofFloat x).Gives readFloat x := by
  rw [ofFloat, if_pos hFinite]
  exact gives_of_isAtom trivial rfl

/-! ## Texts -/

theorem gives_bool (b : Bool) : (Json.bool b).Gives readBool b := honours_bool.gives trivial rfl

theorem gives_string (s : String) : (Json.text s).Gives readString s := honours_text.gives trivial rfl

theorem gives_identifier {kind : IdentifierKind} (id : Identifier kind) :
    (Json.text id.text).Gives (readIdentifier kind) id := by
  have hLower : id.text.toLower = id.text := (Identifier.text_eq_toLower id.parse_text).symm
  exact (honours_identifier kind).gives trivial ⟨_, rfl, hLower⟩

theorem gives_base64 (bs : List UInt8) : (Json.text (Base64.encode bs)).Gives readBase64 bs :=
  honours_base64.gives trivial rfl

/-! ## Arrays -/

theorem ofItems_eq_map (items : List Json) : ofItems items = items.map ofJson := by
  induction items with
  | nil => rfl
  | cons j rest ih => rw [ofItems, ih, List.map_cons]

/-- A list is read back if its items are. -/
theorem gives_list {as : List α} {write : α → Json} {reader : Reader α}
    (h : ∀ a ∈ as, (write a).Gives reader a) :
    (Json.array (as.map write)).Gives (readList reader) as := by
  intro j hSame
  obtain ⟨items, rfl, hItems⟩ := hSame.exists_items
  have hRead : List.Forall₂ (fun a o => reader o = .ok a) as (items.map ofJson) := by
    rw [List.forall₂_map_left_iff] at hItems
    have hBoth := (List.forall₂_and_left as items).mpr ⟨h, hItems⟩
    exact List.forall₂_map_right_iff.mpr (hBoth.imp fun a j hEach => hEach.1 j hEach.2)
  rw [ofJson, ofItems_eq_map, readList, mapM_of_forall₂ hRead]
  rfl

/-! ## Values of no expected shape -/

theorem readJsonItems_ofItems {depth : Nat} {items : List Json}
    (h : ∀ j ∈ items, readJson depth (ofJson j) = .ok j) :
    readJsonItems depth (ofItems items) = .ok items := by
  induction items with
  | nil => rfl
  | cons j rest ih =>
    obtain ⟨hFirst, hRest⟩ := List.forall_mem_cons.mp h
    rw [ofItems, readJsonItems, hFirst, ih hRest]
    rfl

/-- Members are set one after the other, and none is set twice. -/
theorem readJsonMembers_ofMembers {depth : Nat} {read members : List (String × Json)}
    (hNames : ((read ++ members).map Prod.fst).Nodup)
    (h : ∀ m ∈ members, readJson depth (ofJson m.2) = .ok m.2) :
    readJsonMembers depth read (ofMembers members) = .ok (read ++ members) := by
  -- a member passes from those to come to those that are read, which leaves the names as they are
  induction members generalizing read with
  | nil => rw [List.append_nil]; rfl
  | cons m rest ih =>
    obtain ⟨hFirst, hRest⟩ := List.forall_mem_cons.mp h
    have hNew : m.1 ∉ read.map Prod.fst := by
      intro hMem
      rw [List.map_append] at hNames
      exact (List.nodup_append.mp hNames).2.2 _ hMem _ List.mem_cons_self rfl
    rw [List.append_cons] at hNames ⊢
    rw [ofMembers, readJsonMembers, hFirst]
    show readJsonMembers depth (insertMember read m.1 m.2) (ofMembers rest) = _
    rw [insertMember_of_notMem m.2 hNew, ih hNames hRest]

/-- A proper document is read back where it is not nested too deep. -/
theorem readJson_ofJson {j : Json} (hProper : j.IsProper) {depth : Nat} (hDepth : j.nesting < depth) :
    readJson depth (ofJson j) = .ok j := by
  induction hProper generalizing depth with
  | null | bool | text | float => rfl
  | int hLow hHigh => rw [ofJson, readJson, Numeral.value?_ofInt hLow hHigh]
  | @array items hItems ih =>
    -- the items are read with one level less to spare, and are nested one level less
    have hDeep : ¬depth ≤ 1 := by
      rw [nesting] at hDepth
      omega
    have hEach : ∀ j ∈ items, readJson (depth - 1) (ofJson j) = .ok j := by
      intro j hj
      have hLess := nesting_lt_of_mem hj
      exact ih j hj (by omega)
    rw [ofJson, readJson, if_neg hDeep, readJsonItems_ofItems hEach]
    rfl
  | @object members hNames hMembers ih =>
    have hDeep : ¬depth ≤ 1 := by
      rw [nesting] at hDepth
      omega
    have hEach : ∀ m ∈ members, readJson (depth - 1) (ofJson m.2) = .ok m.2 := by
      intro m hm
      have hLess := nesting_lt_of_mem_members hm
      exact ih m hm (by omega)
    have hRead : readJsonMembers (depth - 1) [] (ofMembers members) = .ok members :=
      readJsonMembers_ofMembers hNames hEach
    rw [ofJson, readJson, if_neg hDeep, hRead]
    rfl

end Lorawan.Json
