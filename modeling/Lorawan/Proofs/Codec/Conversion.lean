import Mathlib.Data.List.Perm.Basic
import Mathlib.Tactic.Tauto
import Lorawan.Proofs.Json.Members
import Lorawan.Script.Value

/-!
# What becomes of the value of a script

The value of a script has a document unless something in it has no form in JSON.  A list becomes an array
of its items.  A map becomes an object, but keys of four types become names of one: the integer 1 and the
text "1" are two keys that ask for the same name.  Where no two keys of a map do so, there is a member for
each entry, and the order in which the entries are visited is of no consequence.  Where they do, there is a
member for each name only, and it is the entry visited last that has it.

* `exists_hasDocument_iff`: which values have a document.
* `keeps_iff`: which documents have all that there is in a value.
* `exists_hasDocument_of_same`: without clashes, another order of entries gives the same document up to the
  order of members.
* `keeps_unless_clashes`: all of this together, and what a map with a clash comes to.
-/

namespace Lorawan

namespace Json

/-- Whether documents differ in the order of members at most. -/
inductive Same : Json → Json → Prop
  | refl (j : Json) : Same j j
  | array {items items' : List Json} (hItems : List.Forall₂ Same items items') :
      Same (.array items) (.array items')
  | object {members members' : List (String × Json)} {documents : List Json}
      (hMembers : List.Forall₂ Same (members.map Prod.snd) documents)
      (hOrder : ((members.map Prod.fst).zip documents).Perm members') :
      Same (.object members) (.object members')

end Json

namespace Script

/-- Whether values differ in the order of the entries of maps at most. -/
inductive Value.Same : Value → Value → Prop
  | refl (v : Value) : Same v v
  | list {items items' : List Value} (hItems : List.Forall₂ Same items items') :
      Same (.list items) (.list items')
  | map {entries entries' : List (Key × Value)} {values : List Value}
      (hEntries : List.Forall₂ Same (entries.map Prod.snd) values)
      (hOrder : ((entries.map Prod.fst).zip values).Perm entries') :
      Same (.map entries) (.map entries')

namespace Value

/-! ## Parts -/

/-- The items of a list and the values of a map. -/
def parts : Value → List Value
  | list items => items
  | map entries => entries.map Prod.snd
  | _ => []

/-- What holds of a value if it holds of its parts holds of all values. -/
@[elab_as_elim]
theorem byParts {motive : Value → Prop} (step : ∀ v, (∀ p ∈ v.parts, motive p) → motive v)
    (v : Value) : motive v := by
  refine step v fun p hp => ?_
  have hSmaller : sizeOf p < sizeOf v := by
    cases v with
    | list items =>
      have hItem := List.sizeOf_lt_of_mem (show p ∈ items from hp)
      simp only [list.sizeOf_spec]
      omega
    | map entries =>
      obtain ⟨⟨k, p⟩, hEntry, rfl⟩ := List.mem_map.mp hp
      have hItem := List.sizeOf_lt_of_mem hEntry
      simp only [map.sizeOf_spec, Prod.mk.sizeOf_spec] at hItem ⊢
      omega
    | _ => exact absurd hp List.not_mem_nil
  exact byParts step p
termination_by sizeOf v

/-- Whether a value, whatever its parts, has no form in JSON: a double that is no finite number, a length of
time, a time or a function. -/
def IsFormless : Value → Prop
  | float x => x.isFinite = false
  | duration _ | timestamp _ | function .. => True
  | _ => False

/-- Whether something at some depth of a value has no form in JSON. -/
inductive Lacks : Value → Prop
  | here {v : Value} (h : v.IsFormless) : Lacks v
  | part {v p : Value} (hPart : p ∈ v.parts) (h : Lacks p) : Lacks v

/-- The names that the entries of a map ask for. -/
def names (entries : List (Key × Value)) : List String := (entries.map Prod.fst).map Key.memberName

/-- Whether some map at some depth of a value has two entries that ask for one name. -/
inductive Clashes : Value → Prop
  | here {entries : List (Key × Value)} (h : ¬(names entries).Nodup) : Clashes (.map entries)
  | part {v p : Value} (hPart : p ∈ v.parts) (h : Clashes p) : Clashes v

/-- Whether a document has all that there is in a value: an item for each item of a list, and a member with
a name of its own for each entry of a map. -/
inductive Keeps : Value → Json → Prop
  | null : Keeps .null .null
  | bool (b : Bool) : Keeps (.bool b) (.bool b)
  | int (n : Int64) : Keeps (.int n) (.int n.toInt)
  | uint (n : UInt64) : Keeps (.uint n) (.int n.toNat)
  | float {x : Float} (h : x.isFinite = true) : Keeps (.float x) (.float x)
  | text (s : String) : Keeps (.text s) (.text s)
  | bytes (bs : List UInt8) : Keeps (.bytes bs) (.text (Base64.encode bs))
  | list {items : List Value} {documents : List Json} (hItems : List.Forall₂ Keeps items documents) :
      Keeps (.list items) (.array documents)
  | map {entries : List (Key × Value)} {members : List (String × Json)}
      (hNames : members.map Prod.fst = names entries) (hDistinct : (names entries).Nodup)
      (hEntries : List.Forall₂ Keeps (entries.map Prod.snd) (members.map Prod.snd)) :
      Keeps (.map entries) (.object members)

/-! ## Documents of lists and maps -/

/-- Whether a document is that of a value. -/
abbrev HasDocument (v : Value) (j : Json) : Prop := v.toJson? = some j

/-- Whether a member is what an entry sets. -/
def Sets (e : Key × Value) (m : String × Json) : Prop := m.1 = e.1.memberName ∧ e.2.HasDocument m.2

theorem itemsToJson?_eq_some_iff {items : List Value} {documents : List Json} :
    itemsToJson? items = some documents ↔ List.Forall₂ HasDocument items documents := by
  constructor
  · intro h
    induction items generalizing documents with
    | nil =>
      obtain rfl : [] = documents := Option.some.inj h
      exact .nil
    | cons v rest ih =>
      rw [itemsToJson?] at h
      obtain ⟨j, hFirst, hRest⟩ := Option.bind_eq_some_iff.mp h
      obtain ⟨js, hItems, hEq⟩ := Option.bind_eq_some_iff.mp hRest
      obtain rfl : j :: js = documents := Option.some.inj hEq
      exact .cons hFirst (ih hItems)
  · intro h
    induction h with
    | nil => rfl
    | cons hHead _ ih => rw [itemsToJson?, hHead, ih]; rfl

/-- Entries set their members in turn, after those that are there already. -/
theorem membersToJson?_eq_some_iff {entries : List (Key × Value)} {read members : List (String × Json)} :
    membersToJson? read entries = some members ↔ ∃ named, List.Forall₂ Sets entries named ∧
      members = named.foldl (fun ms m => Json.insertMember ms m.1 m.2) read := by
  -- each entry changes what the later ones find there, so the induction is for all `read`
  induction entries generalizing read with
  | nil =>
    rw [membersToJson?, Option.some.injEq]
    constructor
    · rintro rfl
      exact ⟨[], .nil, rfl⟩
    · rintro ⟨named, hSets, rfl⟩
      cases hSets
      rfl
  | cons e rest ih =>
    rw [membersToJson?]
    constructor
    · intro h
      obtain ⟨j, hFirst, hRest⟩ := Option.bind_eq_some_iff.mp h
      obtain ⟨named, hSets, rfl⟩ := ih.mp hRest
      exact ⟨(e.1.memberName, j) :: named, .cons ⟨rfl, hFirst⟩ hSets, rfl⟩
    · rintro ⟨named, hSets, rfl⟩
      obtain ⟨⟨name, j⟩, named, ⟨rfl, hFirst⟩, hRest, rfl⟩ := List.forall₂_cons_left_iff.mp hSets
      exact Option.bind_eq_some_iff.mpr ⟨j, hFirst, ih.mpr ⟨named, hRest, rfl⟩⟩

theorem hasDocument_list_iff {items : List Value} {j : Json} :
    (list items).HasDocument j ↔
      ∃ documents, List.Forall₂ HasDocument items documents ∧ j = .array documents := by
  constructor
  · intro h
    obtain ⟨documents, hItems, rfl⟩ := Option.map_eq_some_iff.mp h
    exact ⟨documents, itemsToJson?_eq_some_iff.mp hItems, rfl⟩
  · rintro ⟨documents, hItems, rfl⟩
    exact Option.map_eq_some_iff.mpr ⟨documents, itemsToJson?_eq_some_iff.mpr hItems, rfl⟩

/-- The document of a map is the object in which its entries have set their members. -/
theorem hasDocument_map_iff {entries : List (Key × Value)} {j : Json} :
    (map entries).HasDocument j ↔
      ∃ named, List.Forall₂ Sets entries named ∧ j = .object (Json.setAll named) := by
  constructor
  · intro h
    obtain ⟨members, hMembers, rfl⟩ := Option.map_eq_some_iff.mp h
    obtain ⟨named, hSets, rfl⟩ := membersToJson?_eq_some_iff.mp hMembers
    exact ⟨named, hSets, rfl⟩
  · rintro ⟨named, hSets, rfl⟩
    exact Option.map_eq_some_iff.mpr ⟨_, membersToJson?_eq_some_iff.mpr ⟨named, hSets, rfl⟩, rfl⟩

theorem forall₂_sets_iff {entries : List (Key × Value)} {named : List (String × Json)} :
    List.Forall₂ Sets entries named ↔ named.map Prod.fst = names entries ∧
      List.Forall₂ HasDocument (entries.map Prod.snd) (named.map Prod.snd) := by
  induction entries generalizing named with
  | nil => cases named <;> simp [names]
  | cons e rest ih =>
    cases named with
    | nil => exact iff_of_false nofun fun h => nomatch h.1
    | cons m named =>
      simp only [List.forall₂_cons, ih, Sets, names, List.map_cons, List.cons.injEq]
      tauto

/-- Keys and values that stand side by side set the names of the keys to the documents of the values. -/
theorem forall₂_sets_zip (keys : List Key) {values : List Value} {documents : List Json}
    (h : List.Forall₂ HasDocument values documents) :
    List.Forall₂ Sets (keys.zip values) ((keys.map Key.memberName).zip documents) := by
  induction h generalizing keys with
  | nil => rw [List.zip_nil_right, List.zip_nil_right]; exact .nil
  | cons hHead _ ih =>
    cases keys with
    | nil => exact .nil
    | cons key rest => exact .cons ⟨rfl, hHead⟩ (ih rest)

theorem zip_fst_snd {α β : Type*} (l : List (α × β)) : (l.map Prod.fst).zip (l.map Prod.snd) = l := by
  rw [List.zip_map', List.map_id']

/-! ## Whether there is a document -/

theorem exists_forall₂_iff {α β : Type*} {R : α → β → Prop} {as : List α} :
    (∃ bs, List.Forall₂ R as bs) ↔ ∀ a ∈ as, ∃ b, R a b := by
  induction as with
  | nil => exact iff_of_true ⟨[], .nil⟩ fun a ha => absurd ha List.not_mem_nil
  | cons a as ih =>
    rw [List.forall_mem_cons, ← ih]
    constructor
    · rintro ⟨_, _ | ⟨hHead, hRest⟩⟩
      exact ⟨⟨_, hHead⟩, _, hRest⟩
    · rintro ⟨⟨b, hb⟩, bs, hbs⟩
      exact ⟨b :: bs, .cons hb hbs⟩

/-- There is a document of a value if there is one of each part, unless the value itself has no form. -/
theorem exists_hasDocument_iff_parts (v : Value) :
    (∃ j, v.HasDocument j) ↔ ¬v.IsFormless ∧ ∀ p ∈ v.parts, ∃ j, p.HasDocument j := by
  cases v with
  | list items =>
    -- a list has the document of its items in their order
    have hForm : ¬(list items).IsFormless := id
    rw [parts, and_iff_right hForm, ← exists_forall₂_iff]
    simp only [hasDocument_list_iff]
    exact ⟨fun ⟨_, documents, h, _⟩ => ⟨documents, h⟩, fun ⟨documents, h⟩ => ⟨_, documents, h, rfl⟩⟩
  | map entries =>
    -- a map has one as soon as its values have, whatever its keys are called
    have hForm : ¬(map entries).IsFormless := id
    rw [parts, and_iff_right hForm, ← exists_forall₂_iff]
    simp only [hasDocument_map_iff]
    constructor
    · rintro ⟨_, named, hSets, -⟩
      exact ⟨_, (forall₂_sets_iff.mp hSets).2⟩
    · rintro ⟨documents, h⟩
      have hSets := forall₂_sets_zip (entries.map Prod.fst) h
      rw [zip_fst_snd] at hSets
      exact ⟨_, _, hSets, rfl⟩
  | float x =>
    -- a number has one unless it is infinite or not a number
    have hParts : ∀ p ∈ (float x).parts, ∃ j, p.HasDocument j :=
      fun p hp => absurd hp List.not_mem_nil
    rw [and_iff_left hParts]
    simp only [HasDocument, IsFormless, toJson?]
    by_cases hFinite : x.isFinite = true <;> simp [hFinite]
  | duration | timestamp | function => exact iff_of_false (fun ⟨_, h⟩ => nomatch h) fun h => h.1 trivial
  | _ => exact iff_of_true ⟨_, rfl⟩ ⟨id, fun p hp => absurd hp List.not_mem_nil⟩

theorem exists_hasDocument_iff (v : Value) : (∃ j, v.HasDocument j) ↔ ¬v.Lacks := by
  induction v using byParts with
  | step v ih =>
    rw [exists_hasDocument_iff_parts]
    constructor
    · rintro ⟨hForm, hParts⟩ (hFormless | ⟨hPart, hLacks⟩)
      · exact hForm hFormless
      · exact (ih _ hPart).mp (hParts _ hPart) hLacks
    · intro h
      exact ⟨fun hFormless => h (.here hFormless),
        fun p hPart => (ih p hPart).mpr fun hLacks => h (.part hPart hLacks)⟩

/-! ## Whether it has everything -/

theorem forall₂_congr_of_mem {α β : Type*} {R S : α → β → Prop} {as : List α} {bs : List β}
    (h : ∀ a ∈ as, ∀ b, R a b ↔ S a b) : List.Forall₂ R as bs ↔ List.Forall₂ S as bs := by
  induction as generalizing bs with
  | nil => rw [List.forall₂_nil_left_iff, List.forall₂_nil_left_iff]
  | cons a as ih =>
    cases bs with
    | nil => exact iff_of_false nofun nofun
    | cons b bs =>
      rw [List.forall₂_cons, List.forall₂_cons, h a List.mem_cons_self b,
        ih fun a ha => h a (List.mem_cons_of_mem _ ha)]

theorem forall₂_keeps_iff {items : List Value} {documents : List Json}
    (hEach : ∀ v ∈ items, ∀ j, v.Keeps j ↔ v.HasDocument j ∧ ¬v.Clashes) :
    List.Forall₂ Keeps items documents ↔
      List.Forall₂ HasDocument items documents ∧ ∀ v ∈ items, ¬v.Clashes := by
  rw [and_comm, ← List.forall₂_and_left]
  exact forall₂_congr_of_mem fun v hv j => (hEach v hv j).trans and_comm

theorem keeps_list_iff {items : List Value} {j : Json} :
    (list items).Keeps j ↔ ∃ documents, List.Forall₂ Keeps items documents ∧ j = .array documents := by
  constructor
  · rintro ⟨⟩
    exact ⟨_, ‹_›, rfl⟩
  · rintro ⟨documents, h, rfl⟩
    exact .list h

theorem keeps_map_iff {entries : List (Key × Value)} {j : Json} :
    (map entries).Keeps j ↔ ∃ members : List (String × Json), members.map Prod.fst = names entries ∧
      (names entries).Nodup ∧ List.Forall₂ Keeps (entries.map Prod.snd) (members.map Prod.snd) ∧
      j = .object members := by
  constructor
  · rintro ⟨⟩
    exact ⟨_, ‹_›, ‹_›, ‹_›, rfl⟩
  · rintro ⟨members, hNames, hDistinct, h, rfl⟩
    exact .map hNames hDistinct h

theorem not_clashes_of_parts_eq_nil {v : Value} (h : v.parts = []) : ¬v.Clashes := by
  rintro (hClash | ⟨hPart, -⟩)
  · obtain rfl := List.map_eq_nil_iff.mp h
    exact hClash List.nodup_nil
  · exact absurd (h ▸ hPart) List.not_mem_nil

theorem not_clashes_list_iff {items : List Value} : ¬(list items).Clashes ↔ ∀ v ∈ items, ¬v.Clashes := by
  constructor
  · exact fun h v hv hClashes => h (.part hv hClashes)
  · rintro h ⟨⟩
    exact h _ ‹_› ‹_›

theorem not_clashes_map_iff {entries : List (Key × Value)} :
    ¬(map entries).Clashes ↔ (names entries).Nodup ∧ ∀ v ∈ entries.map Prod.snd, ¬v.Clashes := by
  constructor
  · intro h
    exact ⟨not_not.mp fun hNames => h (.here hNames), fun v hv hClashes => h (.part hv hClashes)⟩
  · rintro ⟨hNames, hParts⟩ (hClash | ⟨hPart, hClashes⟩)
    · exact hClash hNames
    · exact hParts _ hPart hClashes

theorem keeps_iff_of_map {entries : List (Key × Value)} {j : Json}
    (hEach : ∀ v ∈ entries.map Prod.snd, ∀ j, v.Keeps j ↔ v.HasDocument j ∧ ¬v.Clashes) :
    (map entries).Keeps j ↔ (map entries).HasDocument j ∧ ¬(map entries).Clashes := by
  rw [keeps_map_iff, hasDocument_map_iff, not_clashes_map_iff]
  simp only [forall₂_keeps_iff hEach, forall₂_sets_iff]
  -- with distinct names, the members are just those that were set
  have hAll : ∀ {named : List (String × Json)}, named.map Prod.fst = names entries →
      (names entries).Nodup → Json.setAll named = named :=
    fun hNames hDistinct => Json.setAll_eq_self (hNames ▸ hDistinct)
  constructor
  · rintro ⟨named, hNames, hDistinct, ⟨hDocuments, hParts⟩, rfl⟩
    exact ⟨⟨named, ⟨hNames, hDocuments⟩, by rw [hAll hNames hDistinct]⟩, hDistinct, hParts⟩
  · rintro ⟨⟨named, ⟨hNames, hDocuments⟩, rfl⟩, hDistinct, hParts⟩
    exact ⟨named, hNames, hDistinct, ⟨hDocuments, hParts⟩, by rw [hAll hNames hDistinct]⟩

/-- A document has all that there is in a value if it is the value's and no names clash. -/
theorem keeps_iff (v : Value) : ∀ j, v.Keeps j ↔ v.HasDocument j ∧ ¬v.Clashes := by
  induction v using byParts with
  | step v ih =>
    intro j
    cases v with
    | list items =>
      have hEach : ∀ v ∈ items, ∀ j, v.Keeps j ↔ v.HasDocument j ∧ ¬v.Clashes := ih
      rw [keeps_list_iff, hasDocument_list_iff, not_clashes_list_iff]
      simp only [forall₂_keeps_iff hEach]
      tauto
    | map entries => exact keeps_iff_of_map ih
    | float x =>
      -- the one kind of value of which some have a document and some have none
      rw [and_iff_left (not_clashes_of_parts_eq_nil rfl), HasDocument, toJson?]
      constructor
      · rintro ⟨⟩
        exact if_pos ‹_›
      · intro h
        obtain ⟨hFinite, hEq⟩ := Option.ite_none_right_eq_some.mp h
        exact Option.some.inj hEq ▸ .float hFinite
    | duration | timestamp | function => exact iff_of_false nofun fun h => nomatch h.1
    | _ =>
      rw [and_iff_left (not_clashes_of_parts_eq_nil rfl)]
      constructor
      · rintro ⟨⟩
        rfl
      · intro h
        obtain rfl := Option.some.inj h
        constructor

/-! ## In another order -/

theorem Same.isFormless_iff {v w : Value} (h : v.Same w) : w.IsFormless ↔ v.IsFormless := by
  cases h <;> rfl

/-- Other orders of entries keep the parts, in another order and with other orders inside them. -/
theorem Same.exists_parts {v w : Value} (h : v.Same w) :
    ∃ ps, List.Forall₂ Same v.parts ps ∧ ps.Perm w.parts := by
  cases h with
  | refl => exact ⟨v.parts, List.forall₂_same.mpr fun p _ => .refl p, .refl _⟩
  | list hItems => exact ⟨_, hItems, .refl _⟩
  | @map entries entries' values hEntries hOrder =>
    have hLength : values.length = (entries.map Prod.fst).length := by
      rw [← hEntries.length_eq, List.length_map, List.length_map]
    have hValues := hOrder.map Prod.snd
    rw [List.map_snd_zip (Nat.le_of_eq hLength)] at hValues
    exact ⟨values, hEntries, hValues⟩

theorem forall_mem_iff_of_forall₂ {α β : Type*} {R : α → β → Prop} {P : α → Prop} {Q : β → Prop}
    {as : List α} {bs : List β} (h : List.Forall₂ R as bs)
    (hEach : ∀ a ∈ as, ∀ b, R a b → (Q b ↔ P a)) : (∀ b ∈ bs, Q b) ↔ ∀ a ∈ as, P a := by
  induction h with
  | nil => exact iff_of_true (fun _ h => absurd h List.not_mem_nil) fun _ h => absurd h List.not_mem_nil
  | cons hHead _ ih =>
    rw [List.forall_mem_cons, List.forall_mem_cons, hEach _ List.mem_cons_self _ hHead,
      ih fun a ha => hEach a (List.mem_cons_of_mem _ ha)]

/-- Whether there is a document does not depend on the order of entries. -/
theorem exists_hasDocument_iff_of_same (v : Value) :
    ∀ w, v.Same w → ((∃ k, w.HasDocument k) ↔ ∃ j, v.HasDocument j) := by
  induction v using byParts with
  | step v ih =>
    intro w h
    obtain ⟨ps, hSame, hOrder⟩ := h.exists_parts
    -- whether each part has a document does not depend on where it stands
    have hParts : (∀ p ∈ w.parts, ∃ k, p.HasDocument k) ↔ ∀ p ∈ ps, ∃ k, p.HasDocument k :=
      forall_congr' fun p => by rw [hOrder.mem_iff]
    rw [exists_hasDocument_iff_parts w, exists_hasDocument_iff_parts v, h.isFormless_iff, hParts,
      forall_mem_iff_of_forall₂ hSame ih]

/-- If each of some values has a document in another order, then all of them together have. -/
theorem exists_forall₂_hasDocument {values values' : List Value} {documents : List Json}
    (hSame : List.Forall₂ Same values values') (hDocuments : List.Forall₂ HasDocument values documents)
    (hEach : ∀ v ∈ values, ∀ j, v.HasDocument j → ∀ w, v.Same w → ∃ k, w.HasDocument k ∧ j.Same k) :
    ∃ documents', List.Forall₂ HasDocument values' documents' ∧
      List.Forall₂ Json.Same documents documents' := by
  induction hSame generalizing documents with
  | nil =>
    cases hDocuments
    exact ⟨[], .nil, .nil⟩
  | cons hHead _ ih =>
    obtain ⟨j, js, hFirst, hRest, rfl⟩ := List.forall₂_cons_left_iff.mp hDocuments
    obtain ⟨k, hk, hSameK⟩ := hEach _ List.mem_cons_self j hFirst _ hHead
    obtain ⟨ks, hks, hSames⟩ := ih hRest fun v hv => hEach v (List.mem_cons_of_mem _ hv)
    exact ⟨k :: ks, .cons hk hks, .cons hSameK hSames⟩

theorem exists_hasDocument_of_map {entries entries' : List (Key × Value)} {values : List Value} {j : Json}
    (hDistinct : (names entries).Nodup) (hDocument : (map entries).HasDocument j)
    (hEntries : List.Forall₂ Same (entries.map Prod.snd) values)
    (hOrder : ((entries.map Prod.fst).zip values).Perm entries')
    (hEach : ∀ v ∈ entries.map Prod.snd, ∀ j, v.HasDocument j → ∀ w, v.Same w →
      ∃ k, w.HasDocument k ∧ j.Same k) :
    ∃ k, (map entries').HasDocument k ∧ j.Same k := by
  obtain ⟨named, hSets, rfl⟩ := hasDocument_map_iff.mp hDocument
  obtain ⟨hNames, hDocuments⟩ := forall₂_sets_iff.mp hSets
  obtain ⟨documents, hDocuments', hSame⟩ := exists_forall₂_hasDocument hEntries hDocuments hEach
  -- first the members in the order they had, then in that of the entries
  have hInPlace := forall₂_sets_zip (entries.map Prod.fst) hDocuments'
  obtain ⟨members, hSets', hPerm⟩ := List.perm_comp_forall₂ hOrder.symm hInPlace
  have hLength : (names entries).length = documents.length := by
    rw [← hNames, ← hSame.length_eq, List.length_map, List.length_map]
  have hNames' : (members.map Prod.fst).Perm (names entries) := by
    have hZip := hPerm.map Prod.fst
    rwa [← names, List.map_fst_zip (Nat.le_of_eq hLength)] at hZip
  refine ⟨.object members, hasDocument_map_iff.mpr ⟨members, hSets', ?_⟩, ?_⟩
  · rw [Json.setAll_eq_self (hNames'.nodup_iff.mpr hDistinct)]
  · rw [Json.setAll_eq_self (hNames ▸ hDistinct)]
    refine .object hSame ?_
    rw [hNames]
    exact hPerm.symm

/-- Where no names clash, another order of entries gives the same document up to the order of members. -/
theorem exists_hasDocument_of_same (v : Value) : ¬v.Clashes → ∀ j, v.HasDocument j →
    ∀ w, v.Same w → ∃ k, w.HasDocument k ∧ j.Same k := by
  induction v using byParts with
  | step v ih =>
    intro hNoClash j hDocument w hSame
    -- a clash in a part would be one in the value
    have hEach : ∀ p ∈ v.parts, ∀ j, p.HasDocument j → ∀ w, p.Same w → ∃ k, w.HasDocument k ∧ j.Same k :=
      fun p hp => ih p hp fun hClashes => hNoClash (.part hp hClashes)
    cases hSame with
    | refl => exact ⟨j, hDocument, .refl j⟩
    | list hItems =>
      obtain ⟨documents, hDocuments, rfl⟩ := hasDocument_list_iff.mp hDocument
      obtain ⟨documents', hDocuments', hSames⟩ := exists_forall₂_hasDocument hItems hDocuments hEach
      exact ⟨.array documents', hasDocument_list_iff.mpr ⟨_, hDocuments', rfl⟩, .array hSames⟩
    | map hEntries hOrder =>
      exact exists_hasDocument_of_map (not_clashes_map_iff.mp hNoClash).1 hDocument hEntries hOrder hEach

/-- Each entry of a map is the one that gets the name it asks for if it is visited last. -/
theorem exists_same_lookup {entries : List (Key × Value)} {j : Json}
    (hDocument : (map entries).HasDocument j) {e : Key × Value} (he : e ∈ entries) :
    ∃ w members, (map entries).Same w ∧ w.HasDocument (.object members) ∧
      members.lookup e.1.memberName = e.2.toJson? := by
  obtain ⟨named, hSets, -⟩ := hasDocument_map_iff.mp hDocument
  have hEach : ∀ e ∈ entries, ∃ m, Sets e m := exists_forall₂_iff.mp ⟨named, hSets⟩
  obtain ⟨m, hLast⟩ := hEach e he
  -- the entry is moved to the end, where nothing that is set later takes its place
  obtain ⟨front, back, rfl⟩ := List.append_of_mem he
  have hMove : (front ++ e :: back).Perm (front ++ back ++ [e]) := by
    rw [List.append_assoc]
    exact (List.perm_append_singleton e back).symm.append_left front
  obtain ⟨others, hOthers⟩ := exists_forall₂_iff.mpr fun e' (hMem : e' ∈ front ++ back) =>
    hEach e' (hMove.mem_iff.mpr (List.mem_append_left [e] hMem))
  have hAll : List.Forall₂ Sets (front ++ back ++ [e]) (others ++ [m]) :=
    List.rel_append hOthers (.cons hLast .nil)
  refine ⟨.map (front ++ back ++ [e]), _, ?_, hasDocument_map_iff.mpr ⟨_, hAll, rfl⟩, ?_⟩
  · exact .map (List.forall₂_same.mpr fun v _ => .refl v) (by rwa [zip_fst_snd])
  · rw [Json.setAll_concat, Json.lookup_insertMember, if_pos hLast.1, hLast.2]

/-- The document of a value.  There is none just if something in the value has no form, whatever the order
of entries.  It has all that there is in the value just if no names clash, and then the order of entries
decides no more than that of its members.  Otherwise a map has a member for each name that its entries ask
for, and any of the entries may be the one that gets it. -/
theorem keeps_unless_clashes (v : Value) :
    (v.toJson? = none ↔ v.Lacks) ∧
    (∀ w, v.Same w → (w.toJson? = none ↔ v.toJson? = none)) ∧
    (∀ j, v.Keeps j ↔ v.toJson? = some j ∧ ¬v.Clashes) ∧
    (¬v.Clashes → ∀ w, v.Same w → Option.Rel Json.Same v.toJson? w.toJson?) ∧
    ∀ entries j, v = .map entries → v.toJson? = some j →
      (∃ members, j = .object members ∧ (members.map Prod.fst).Perm (names entries).dedup) ∧
      ∀ e ∈ entries, ∃ w members, v.Same w ∧ w.toJson? = some (.object members) ∧
        members.lookup e.1.memberName = e.2.toJson? := by
  have hNone : ∀ {v : Value}, v.toJson? = none ↔ ¬∃ j, v.HasDocument j := by
    intro v
    rw [Option.eq_none_iff_forall_ne_some, not_exists]
  -- the order of entries decides what a document holds, not whether there is one
  have hOrder : ∀ w, v.Same w → (w.toJson? = none ↔ v.toJson? = none) := by
    intro w hSame
    rw [hNone, hNone, exists_hasDocument_iff_of_same v w hSame]
  refine ⟨?_, hOrder, keeps_iff v, ?_, ?_⟩
  · rw [hNone, exists_hasDocument_iff, not_not]
  · intro hNoClash w hSame
    cases hDocument : v.toJson? with
    | none =>
      rw [(hOrder w hSame).mpr hDocument]
      exact .none
    | some j =>
      obtain ⟨k, hk, hSameK⟩ := exists_hasDocument_of_same v hNoClash j hDocument w hSame
      rw [hk]
      exact .some hSameK
  · -- under a name that several keys have stands the last one, and any of them can come last
    rintro entries j rfl hDocument
    obtain ⟨named, hSets, rfl⟩ := hasDocument_map_iff.mp hDocument
    refine ⟨⟨_, rfl, ?_⟩, fun e he => exists_same_lookup hDocument he⟩
    exact (forall₂_sets_iff.mp hSets).1 ▸ Json.names_setAll_perm named

/-- Two keys with one name: the entry that comes last is the one that is kept. -/
example : (map [(.int 1, .text "a"), (.text "1", .text "b")]).toJson? = some (.object [("1", .text "b")]) :=
  rfl

end Value

end Script

end Lorawan
