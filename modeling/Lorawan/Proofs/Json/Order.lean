import Lorawan.Proofs.Codec.RoundTrip

/-!
# Documents up to the order of members

The members of an object have no order that can be relied on (`Json.Same`).  What can be relied on is the
value of a member by its name, up to the order of the members in it.

* `Same.lookup_members`: the members of an object in another order.
* `Same.isProper`, `Same.nesting_eq`: a proper document stays proper, and as deep as it is.
-/

namespace Lorawan.Json

/-! ## Members by name -/

/-- Members with different names are found by their names. -/
theorem lookup_eq_some_iff {members : List (String × Json)} (hNames : (members.map Prod.fst).Nodup)
    {name : String} {j : Json} : members.lookup name = some j ↔ (name, j) ∈ members := by
  induction members with
  | nil => exact iff_of_false nofun List.not_mem_nil
  | cons m rest ih =>
    obtain ⟨hNew, hRest⟩ := List.nodup_cons.mp hNames
    rw [lookup_cons_eq_ite, List.mem_cons]
    split_ifs with hName
    · subst hName
      have hLater : (m.1, j) ∉ rest := fun hMem => hNew (List.mem_map.mpr ⟨_, hMem, rfl⟩)
      rw [or_iff_left hLater, Option.some.injEq, Prod.ext_iff, and_iff_right rfl, eq_comm]
    · rw [ih hRest, or_iff_right fun hEq => hName (congrArg Prod.fst hEq).symm]

theorem lookup_eq_none_iff {members : List (String × Json)} {name : String} :
    members.lookup name = none ↔ name ∉ members.map Prod.fst := by
  induction members with
  | nil => exact iff_of_true rfl List.not_mem_nil
  | cons m rest ih =>
    rw [lookup_cons_eq_ite, List.map_cons, List.mem_cons, not_or, ← ih]
    split_ifs with hName
    · exact iff_of_false nofun fun h => h.1 hName.symm
    · exact (and_iff_right (Ne.symm hName)).symm

/-- The order of members with different names makes no difference to what is found. -/
theorem lookup_perm {members members' : List (String × Json)} (hNames : (members.map Prod.fst).Nodup)
    (hPerm : members.Perm members') (name : String) : members.lookup name = members'.lookup name := by
  have hNames' : (members'.map Prod.fst).Nodup := (hPerm.map Prod.fst).nodup_iff.mp hNames
  -- with different names, what is found is what is a member, and that does not depend on the order
  refine Option.ext fun j => ?_
  rw [lookup_eq_some_iff hNames, lookup_eq_some_iff hNames', hPerm.mem_iff]

/-! ## Another order -/

/-- Whether members have one name, and values that differ in the order of members at most. -/
def SameMember (m m' : String × Json) : Prop := m.1 = m'.1 ∧ m.2.Same m'.2

theorem forall₂_sameMember_refl (members : List (String × Json)) : List.Forall₂ SameMember members members :=
  List.forall₂_same.mpr fun m _ => ⟨rfl, .refl m.2⟩

theorem forall₂_sameMember_zip {members : List (String × Json)} {documents : List Json}
    (h : List.Forall₂ Same (members.map Prod.snd) documents) :
    List.Forall₂ SameMember members ((members.map Prod.fst).zip documents) := by
  induction members generalizing documents with
  | nil => exact .nil
  | cons m rest ih =>
    obtain ⟨j, documents, hFirst, hRest, rfl⟩ := List.forall₂_cons_left_iff.mp h
    exact .cons ⟨rfl, hFirst⟩ (ih hRest)

theorem map_fst_of_sameMember {members members' : List (String × Json)}
    (h : List.Forall₂ SameMember members members') : members.map Prod.fst = members'.map Prod.fst := by
  induction h with
  | nil => rfl
  | cons hFirst _ ih => rw [List.map_cons, List.map_cons, hFirst.1, ih]

theorem lookup_sameMember {members members' : List (String × Json)}
    (h : List.Forall₂ SameMember members members') (name : String) :
    Option.Rel Same (members.lookup name) (members'.lookup name) := by
  induction h with
  | nil => exact .none
  | cons hFirst _ ih =>
    rw [lookup_cons_eq_ite, lookup_cons_eq_ite, hFirst.1]
    split_ifs
    · exact .some hFirst.2
    · exact ih

theorem Same.exists_items {items : List Json} {j : Json} (h : (Json.array items).Same j) :
    ∃ items', j = .array items' ∧ List.Forall₂ Same items items' := by
  cases h with
  | refl => exact ⟨items, rfl, List.forall₂_same.mpr fun j _ => .refl j⟩
  | array hItems => exact ⟨_, rfl, hItems⟩

/-- The members of an object in another order: each may differ in the order of its own members. -/
theorem Same.exists_members {members : List (String × Json)} {j : Json} (h : (Json.object members).Same j) :
    ∃ named members', j = .object members' ∧ List.Forall₂ SameMember members named ∧
      named.Perm members' := by
  cases h with
  | refl => exact ⟨members, members, rfl, forall₂_sameMember_refl members, .refl members⟩
  | object hMembers hOrder => exact ⟨_, _, rfl, forall₂_sameMember_zip hMembers, hOrder⟩

theorem Same.names_perm {members members' : List (String × Json)}
    (h : (Json.object members).Same (.object members')) :
    (members.map Prod.fst).Perm (members'.map Prod.fst) := by
  obtain ⟨named, named', hEq, hNamed, hPerm⟩ := h.exists_members
  cases hEq
  rw [map_fst_of_sameMember hNamed]
  exact hPerm.map Prod.fst

/-- The order of the members of an object may be changed. -/
theorem same_of_perm {members members' : List (String × Json)} (h : members.Perm members') :
    (Json.object members).Same (.object members') := by
  refine .object (List.forall₂_same.mpr fun j _ => .refl j) ?_
  rwa [Script.Value.zip_fst_snd]

/-- The same members are found in an object whose members are in another order. -/
theorem Same.lookup_members {members : List (String × Json)} {j : Json}
    (h : (Json.object members).Same j) (hNames : (members.map Prod.fst).Nodup) :
    ∃ members', j = .object members' ∧ (members.map Prod.fst).Perm (members'.map Prod.fst) ∧
      ∀ name, Option.Rel Same (members.lookup name) (members'.lookup name) := by
  obtain ⟨named, members', rfl, hNamed, hPerm⟩ := h.exists_members
  -- first each member changes in its place, and then the members change places
  have hNames' : (named.map Prod.fst).Nodup := map_fst_of_sameMember hNamed ▸ hNames
  refine ⟨members', rfl, ?_, fun name => ?_⟩
  · rw [map_fst_of_sameMember hNamed]
    exact hPerm.map Prod.fst
  · rw [← lookup_perm hNames' hPerm]
    exact lookup_sameMember hNamed name

/-- What is neither an array nor an object. -/
def IsAtom : Json → Prop
  | .array _ | .object _ => False
  | _ => True

theorem Same.eq_of_isAtom {j j' : Json} (h : j.Same j') (hAtom : j.IsAtom) : j' = j := by
  cases h with
  | refl => rfl
  | array => exact hAtom.elim
  | object => exact hAtom.elim

theorem eq_of_sameMember {members named : List (String × Json)} (h : List.Forall₂ SameMember members named)
    (hAtoms : ∀ m ∈ members, m.2.IsAtom) : named = members := by
  induction h with
  | nil => rfl
  | cons hFirst _ ih =>
    obtain ⟨hHead, hRest⟩ := List.forall_mem_cons.mp hAtoms
    rw [ih hRest, Prod.ext hFirst.1.symm (hFirst.2.eq_of_isAtom hHead)]

/-- Members without members of their own can only change places. -/
theorem Same.exists_perm {members : List (String × Json)} {j : Json} (h : (Json.object members).Same j)
    (hAtoms : ∀ m ∈ members, m.2.IsAtom) : ∃ members', j = .object members' ∧ members.Perm members' := by
  obtain ⟨named, members', rfl, hNamed, hPerm⟩ := h.exists_members
  exact ⟨members', rfl, eq_of_sameMember hNamed hAtoms ▸ hPerm⟩

theorem Same.eq_null {j : Json} (h : j.Same .null) : j = .null := by
  cases h
  rfl

/-! ## Proper documents -/

theorem forall_mem_of_forall₂ {R : α → β → Prop} {as : List α} {bs : List β} {p : β → Prop}
    (h : List.Forall₂ R as bs) (hEach : ∀ a ∈ as, ∀ b, R a b → p b) : ∀ b ∈ bs, p b := by
  induction h with
  | nil => exact fun _ h => absurd h List.not_mem_nil
  | cons hFirst _ ih =>
    obtain ⟨hHead, hRest⟩ := List.forall_mem_cons.mp hEach
    exact List.forall_mem_cons.mpr ⟨hHead _ hFirst, ih hRest⟩

/-- A document is proper in any order of its members. -/
theorem Same.isProper {j : Json} (hProper : j.IsProper) : ∀ j', j.Same j' → j'.IsProper := by
  induction hProper with
  | array hItems ih =>
    intro j' h
    obtain ⟨items', rfl, hSame⟩ := h.exists_items
    exact .array (forall_mem_of_forall₂ hSame ih)
  | object hNames hMembers ih =>
    intro j' h
    obtain ⟨named, members', rfl, hNamed, hPerm⟩ := h.exists_members
    have hNames' : (named.map Prod.fst).Nodup := map_fst_of_sameMember hNamed ▸ hNames
    have hEach : ∀ m ∈ named, m.2.IsProper :=
      forall_mem_of_forall₂ hNamed fun m hm m' hSame => ih m hm m'.2 hSame.2
    exact .object ((hPerm.map Prod.fst).nodup_iff.mp hNames') fun m hm => hEach m (hPerm.mem_iff.mpr hm)
  | _ =>
    intro j' h
    rw [h.eq_of_isAtom trivial]
    constructor <;> assumption

/-! ## Nesting -/

theorem nestingItems_le_iff {items : List Json} {n : Nat} :
    nestingItems items ≤ n ↔ ∀ j ∈ items, j.nesting ≤ n := by
  induction items with
  | nil => exact iff_of_true (Nat.zero_le n) fun _ h => absurd h List.not_mem_nil
  | cons j rest ih => rw [nestingItems, Nat.max_le, List.forall_mem_cons, ih]

theorem nestingMembers_le_iff {members : List (String × Json)} {n : Nat} :
    nestingMembers members ≤ n ↔ ∀ m ∈ members, m.2.nesting ≤ n := by
  induction members with
  | nil => exact iff_of_true (Nat.zero_le n) fun _ h => absurd h List.not_mem_nil
  | cons m rest ih => rw [nestingMembers, Nat.max_le, List.forall_mem_cons, ih]

theorem nestingItems_eq_of_forall₂ {items items' : List Json}
    (h : List.Forall₂ (fun j j' => j'.nesting = j.nesting) items items') :
    nestingItems items' = nestingItems items := by
  induction h with
  | nil => rfl
  | cons hFirst _ ih => rw [nestingItems, nestingItems, hFirst, ih]

theorem nestingMembers_eq_nestingItems (members : List (String × Json)) :
    nestingMembers members = nestingItems (members.map Prod.snd) := by
  induction members with
  | nil => rfl
  | cons m rest ih => rw [nestingMembers, List.map_cons, nestingItems, ih]

theorem nestingMembers_perm {members members' : List (String × Json)} (h : members.Perm members') :
    nestingMembers members' = nestingMembers members := by
  apply Nat.le_antisymm
  · exact nestingMembers_le_iff.mpr fun m hm =>
      nestingMembers_le_iff.mp (Nat.le_refl _) m (h.mem_iff.mpr hm)
  · exact nestingMembers_le_iff.mpr fun m hm =>
      nestingMembers_le_iff.mp (Nat.le_refl _) m (h.mem_iff.mp hm)

/-- A document is nested as deep in any order of its members. -/
theorem Same.nesting_eq {j : Json} (hProper : j.IsProper) : ∀ j', j.Same j' → j'.nesting = j.nesting := by
  induction hProper with
  | @array items hItems ih =>
    intro j' h
    obtain ⟨items', rfl, hSame⟩ := h.exists_items
    have hEach : List.Forall₂ (fun j j' => j'.nesting = j.nesting) items items' :=
      ((List.forall₂_and_left items items').mpr ⟨ih, hSame⟩).imp fun j j' hBoth => hBoth.1 j' hBoth.2
    rw [nesting, nesting, nestingItems_eq_of_forall₂ hEach]
  | @object members hNames hMembers ih =>
    intro j' h
    obtain ⟨named, members', rfl, hNamed, hPerm⟩ := h.exists_members
    -- the depth of members is that of their values, in any order
    have hEach : List.Forall₂ (fun j j' => j'.nesting = j.nesting) (members.map Prod.snd)
        (named.map Prod.snd) := by
      rw [List.forall₂_map_left_iff, List.forall₂_map_right_iff]
      exact ((List.forall₂_and_left members named).mpr ⟨ih, hNamed⟩).imp fun m m' hBoth =>
        hBoth.1 m'.2 hBoth.2.2
    rw [nesting, nesting, nestingMembers_perm hPerm, nestingMembers_eq_nestingItems,
      nestingMembers_eq_nestingItems, nestingItems_eq_of_forall₂ hEach]
  | _ =>
    intro j' h
    rw [h.eq_of_isAtom trivial]

theorem nesting_lt_of_mem {items : List Json} {j : Json} (h : j ∈ items) :
    j.nesting < (Json.array items).nesting :=
  Nat.lt_succ_of_le (nestingItems_le_iff.mp (Nat.le_refl _) j h)

theorem nesting_lt_of_mem_members {members : List (String × Json)} {m : String × Json} (h : m ∈ members) :
    m.2.nesting < (Json.object members).nesting :=
  Nat.lt_succ_of_le (nestingMembers_le_iff.mp (Nat.le_refl _) m h)

theorem nesting_lt_of_get? {j v : Json} {name : String} (h : j.get? name = some v) :
    v.nesting < j.nesting := by
  cases j
  case object members =>
    obtain ⟨before, after, rfl, -⟩ := List.lookup_eq_some_iff.mp h
    have hMem : (name, v) ∈ before ++ (name, v) :: after := List.mem_append_right before List.mem_cons_self
    exact nesting_lt_of_mem_members hMem
  all_goals cases h

end Lorawan.Json
