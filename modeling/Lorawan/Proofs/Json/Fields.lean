import Lorawan.Proofs.Json.Reading

/-!
# Reading records back

A record is written as an object with a member for each of its fields, some of which may be left out
(`Fills`).  The reader looks the fields up by name, so it finds what was written in whatever order the
members are, and nothing for a field that was left out (`Slots.Hold`).

* `Slots.of_ofJson`: what is found in an object whose members have different names.
* `Fills.exists_slots`: what is found where a record was written.
* `Slots.Hold.required`, `Slots.Hold.optional`: the fields one by one.
-/

namespace Lorawan.Json

open Outline

/-! ## Members that a record has -/

/-- The members of an object that are fields of a record. -/
def known (fields : List Field) (members : List (String × Json)) : List (String × Outline) :=
  (members.filter fun m => (fields.find? (·.name = m.1)).isSome).map fun m => (m.1, ofJson m.2)

theorem find?_isSome_iff {fields : List Field} {name : String} :
    (fields.find? (·.name = name)).isSome ↔ name ∈ fields.map Field.name := by
  rw [List.find?_isSome, List.mem_map]
  simp only [decide_eq_true_eq]

theorem known_cons {fields : List Field} {m : String × Json} (h : (fields.find? (·.name = m.1)).isSome)
    (rest : List (String × Json)) : known fields (m :: rest) = (m.1, ofJson m.2) :: known fields rest := by
  rw [known, List.filter_cons, if_pos h, List.map_cons]
  rfl

theorem known_cons_of_unknown {fields : List Field} {m : String × Json}
    (h : ¬(fields.find? (·.name = m.1)).isSome) (rest : List (String × Json)) :
    known fields (m :: rest) = known fields rest := by
  rw [known, List.filter_cons, if_neg h]
  rfl

theorem lookup_known {fields : List Field} {name : String} (h : name ∈ fields.map Field.name)
    (members : List (String × Json)) :
    (known fields members).lookup name = (members.lookup name).map ofJson := by
  induction members with
  | nil => rfl
  | cons m rest ih =>
    rw [lookup_cons_eq_ite]
    split_ifs with hName
    · rw [known_cons (find?_isSome_iff.mpr (hName ▸ h)), List.lookup_cons, hName, beq_self_eq_true]
      rfl
    · by_cases hKnown : (fields.find? (·.name = m.1)).isSome
      · rw [known_cons hKnown, List.lookup_cons, beq_false_of_ne (Ne.symm hName), ih]
      · rw [known_cons_of_unknown hKnown, ih]

theorem ignorable_ofJson (j : Json) : Slots.ofMembers.ignorable (ofJson j) = true := by
  cases j <;> rfl

/-- Members with different names that pass the checks are all collected. -/
theorem Slots.ofMembers_ofMembers {fields : List Field} {found : List (String × Outline)}
    {members : List (String × Json)} (hNames : (members.map Prod.fst).Nodup)
    (hNew : ∀ m ∈ members, found.lookup m.1 = none)
    (hChecks : ∀ m ∈ members, ∀ f, fields.find? (·.name = m.1) = some f → f.check (ofJson m.2) = .ok ()) :
    Slots.ofMembers fields found (Outline.ofMembers members) = .ok ⟨found ++ known fields members⟩ := by
  induction members generalizing found with
  | nil => rw [Outline.ofMembers, Slots.ofMembers, known, List.filter_nil, List.map_nil, List.append_nil]
  | cons m rest ih =>
    obtain ⟨hOther, hNames⟩ := List.nodup_cons.mp hNames
    obtain ⟨hFirst, hNew⟩ := List.forall_mem_cons.mp hNew
    obtain ⟨hCheck, hChecks⟩ := List.forall_mem_cons.mp hChecks
    rw [Outline.ofMembers, Slots.ofMembers]
    cases hField : fields.find? (·.name = m.1) with
    | none =>
      -- a member that is no field is passed over, whatever document it has
      have hUnknown : ¬(fields.find? (·.name = m.1)).isSome := by rw [hField]; decide
      rw [known_cons_of_unknown hUnknown]
      dsimp only
      rw [if_pos (ignorable_ofJson m.2), ih hNames hNew hChecks]
    | some f =>
      have hKnown : (fields.find? (·.name = m.1)).isSome := by rw [hField]; rfl
      -- no name comes twice, so the rest is not found among the members up to this one
      have hLater : ∀ m' ∈ rest, (found ++ [(m.1, ofJson m.2)]).lookup m'.1 = none := by
        intro m' hm'
        have hNe : m'.1 ≠ m.1 := fun hEq => hOther (hEq ▸ List.mem_map_of_mem hm')
        rw [List.lookup_append, hNew m' hm', List.lookup_cons, beq_false_of_ne hNe]
        rfl
      have hRest := ih hNames hLater hChecks
      rw [List.append_assoc, List.singleton_append] at hRest
      rw [known_cons hKnown, ← hRest]
      dsimp only
      rw [hFirst, hCheck f hField]
      rfl

/-- What is found in an object whose members pass the checks. -/
theorem Slots.of_ofJson {fields : List Field} {members : List (String × Json)}
    (hNames : (members.map Prod.fst).Nodup)
    (hChecks : ∀ m ∈ members, ∀ f, fields.find? (·.name = m.1) = some f → f.check (ofJson m.2) = .ok ()) :
    ∃ s, Slots.of fields (ofJson (.object members)) = .ok s ∧
      ∀ name ∈ fields.map Field.name, s.found.lookup name = (members.lookup name).map ofJson := by
  refine ⟨⟨known fields members⟩, ?_, fun name hName => lookup_known hName members⟩
  have hMembers : Slots.ofMembers fields [] (Outline.ofMembers members) = .ok ⟨known fields members⟩ :=
    Slots.ofMembers_ofMembers hNames (fun _ _ => rfl) hChecks
  rw [ofJson, Slots.of, hMembers]
  rfl

/-! ## Fields of a record -/

/-- Whether a document fits a field in whatever order its members are. -/
def Field.Accepts (f : Field) (j : Json) : Prop := ∀ j', j.Same j' → f.check (ofJson j') = .ok ()

theorem readOption_ofJson {reader : Reader α} {j : Json} (h : j ≠ .null) :
    readOption reader (ofJson j) = some <$> reader (ofJson j) := by
  cases j
  case null => exact absurd rfl h
  all_goals rfl

section Accepts

variable {name : String} {reader : Reader α} {j : Json} {a : α}

theorem Gives.required (h : j.Gives reader a) : (Field.required name reader).Accepts j := by
  intro j' hSame
  show discard (reader (ofJson j')) = _
  rw [h j' hSame]
  rfl

theorem Gives.defaulted (h : j.Gives reader a) : (Field.defaulted name reader).Accepts j := by
  intro j' hSame
  show discard (reader (ofJson j')) = _
  rw [h j' hSame]
  rfl

theorem Gives.option (h : j.Gives reader a) (hNull : j ≠ .null) :
    j.Gives (readOption reader) (some a) := by
  intro j' hSame
  have hNull' : j' ≠ .null := by
    rintro rfl
    exact hNull hSame.eq_null
  rw [readOption_ofJson hNull', h j' hSame]
  rfl

theorem Gives.optional (h : j.Gives reader a) (hNull : j ≠ .null) :
    (Field.optional name reader).Accepts j := by
  intro j' hSame
  show discard (readOption reader (ofJson j')) = _
  rw [h.option hNull j' hSame]
  rfl

end Accepts

/-- Whether some members are those of a record: one for each of its fields in their order, unless the field
is left out. -/
inductive Fills : List Field → List (String × Json) → Prop
  | nil : Fills [] []
  | given {f : Field} {fields : List Field} {j : Json} {members : List (String × Json)}
      (hField : f.Accepts j) (hRest : Fills fields members) : Fills (f :: fields) ((f.name, j) :: members)
  | leftOut {f : Field} {fields : List Field} {members : List (String × Json)}
      (hRest : Fills fields members) : Fills (f :: fields) members

namespace Fills

variable {fields : List Field} {members : List (String × Json)}

theorem append {fields' : List Field} {members' : List (String × Json)} (h : Fills fields members)
    (h' : Fills fields' members') : Fills (fields ++ fields') (members ++ members') := by
  induction h with
  | nil => exact h'
  | given hField _ ih => exact .given hField ih
  | leftOut _ ih => exact .leftOut ih

theorem sublist (h : Fills fields members) : (members.map Prod.fst).Sublist (fields.map Field.name) := by
  induction h with
  | nil => exact .slnil
  | given _ _ ih => exact ih.cons_cons _
  | leftOut _ ih => exact ih.cons _

theorem exists_accepts (h : Fills fields members) :
    ∀ m ∈ members, ∃ f ∈ fields, f.name = m.1 ∧ f.Accepts m.2 := by
  induction h with
  | nil => exact fun _ h => absurd h List.not_mem_nil
  | @given f fields j members hField _ ih =>
    refine List.forall_mem_cons.mpr ⟨⟨f, List.mem_cons_self, rfl, hField⟩, fun m hm => ?_⟩
    obtain ⟨f', hMem, hFits⟩ := ih m hm
    exact ⟨f', List.mem_cons_of_mem f hMem, hFits⟩
  | @leftOut f fields members _ ih =>
    intro m hm
    obtain ⟨f', hMem, hFits⟩ := ih m hm
    exact ⟨f', List.mem_cons_of_mem f hMem, hFits⟩

end Fills

theorem eq_of_name_eq {fields : List Field} (hNames : (fields.map Field.name).Nodup) {f f' : Field}
    (hf : f ∈ fields) (hf' : f' ∈ fields) (h : f.name = f'.name) : f = f' :=
  List.inj_on_of_nodup_map hNames hf hf' h

/-! ## What is found -/

/-- What is found where a record was written: for each member a value that is the same up to the order of
members, which is the member of the document that is read; and nothing for a field that was left out. -/
structure Slots.Hold (s : Slots) (fields : List Field) (members : List (String × Json)) (j : Json) : Prop where
  given : ∀ m ∈ members, ∃ v, m.2.Same v ∧ j.get? m.1 = some v ∧ s.found.lookup m.1 = some (ofJson v)
  leftOut : ∀ name ∈ fields.map Field.name, name ∉ members.map Prod.fst →
    j.get? name = none ∧ s.found.lookup name = none

/-- A record that was written is found again, in whatever order its members are. -/
theorem Fills.exists_slots {fields : List Field} {members : List (String × Json)} {j : Json}
    (h : Fills fields members) (hNames : (fields.map Field.name).Nodup)
    (hSame : (Json.object members).Same j) :
    ∃ s, Slots.of fields (ofJson j) = .ok s ∧ s.Hold fields members j := by
  have hDistinct : (members.map Prod.fst).Nodup := hNames.sublist h.sublist
  obtain ⟨members', rfl, hPerm, hLookup⟩ := hSame.lookup_members hDistinct
  have hDistinct' : (members'.map Prod.fst).Nodup := hPerm.nodup_iff.mp hDistinct
  -- each member of the document was written, up to the order of members in it, and so is accepted
  have hOld : ∀ m' ∈ members', ∃ m ∈ members, m.1 = m'.1 ∧ m.2.Same m'.2 := by
    intro m' hm'
    have hFound := (lookup_eq_some_iff hDistinct').mpr (show (m'.1, m'.2) ∈ members' from hm')
    have hRel := hLookup m'.1
    rw [hFound] at hRel
    cases hOther : members.lookup m'.1 with
    | none => rw [hOther] at hRel; cases hRel
    | some v =>
      rw [hOther] at hRel
      cases hRel with
      | some hV => exact ⟨(m'.1, v), (lookup_eq_some_iff hDistinct).mp hOther, rfl, hV⟩
  obtain ⟨s, hSlots, hFound⟩ := Slots.of_ofJson hDistinct' fun m' hm' f hf => by
    obtain ⟨m, hm, hName, hV⟩ := hOld m' hm'
    obtain ⟨f', hf', hName', hAccepts⟩ := h.exists_accepts m hm
    have hMem := List.mem_of_find?_eq_some hf
    have hEq : f.name = m'.1 := by simpa using List.find?_some hf
    rw [eq_of_name_eq hNames hMem hf' (hEq.trans (hName.symm.trans hName'.symm))]
    exact hAccepts m'.2 hV
  refine ⟨s, hSlots, fun m hm => ?_, fun name hName hOut => ?_⟩
  · have hRel := hLookup m.1
    rw [(lookup_eq_some_iff hDistinct).mpr (show (m.1, m.2) ∈ members from hm)] at hRel
    cases hOther : members'.lookup m.1 with
    | none => rw [hOther] at hRel; cases hRel
    | some v =>
      rw [hOther] at hRel
      cases hRel with
      | some hV =>
        have hName := h.sublist.subset (List.mem_map_of_mem hm)
        exact ⟨v, hV, hOther, by rw [hFound m.1 hName, hOther]; rfl⟩
  · have hNone : members'.lookup name = none :=
      lookup_eq_none_iff.mpr fun hMem => hOut (hPerm.mem_iff.mpr hMem)
    exact ⟨hNone, by rw [hFound name hName, hNone]; rfl⟩

namespace Slots.Hold

variable {s : Slots} {fields : List Field} {members : List (String × Json)} {j : Json} {reader : Reader α}

theorem required (h : s.Hold fields members j) (name : String) {v : Json} {a : α} (hMem : (name, v) ∈ members)
    (hGives : v.Gives reader a) : s.required name reader = .ok a := by
  obtain ⟨v', hSame, -, hFound⟩ := h.given _ hMem
  rw [Slots.required, hFound]
  exact hGives v' hSame

theorem defaulted (h : s.Hold fields members j) (name : String) {v : Json} {a : α} (hMem : (name, v) ∈ members)
    (hGives : v.Gives reader a) (default : α) : s.defaulted name reader default = .ok a := by
  obtain ⟨v', hSame, -, hFound⟩ := h.given _ hMem
  rw [Slots.defaulted, hFound]
  exact hGives v' hSame

/-- A part that may be missing is found if it is written, and is missing if it is left out. -/
theorem optional (h : s.Hold fields members j) (name : String) {o : Option α} {write : α → Json}
    (hName : name ∈ fields.map Field.name) (hGiven : ∀ a ∈ o, (name, write a) ∈ members)
    (hLeftOut : o = none → name ∉ members.map Prod.fst) (hGives : ∀ a ∈ o, (write a).Gives reader a)
    (hNull : ∀ a ∈ o, write a ≠ .null) : s.optional name reader = .ok o := by
  cases o with
  | none =>
    rw [Slots.optional, Slots.defaulted, (h.leftOut name hName (hLeftOut rfl)).2]
  | some a =>
    exact h.defaulted name (hGiven a rfl) ((hGives a rfl).option (hNull a rfl)) none

end Slots.Hold

end Lorawan.Json
