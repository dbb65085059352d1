import Lorawan.Proofs.Json.Fields

/-!
# Forms of records

A record has parts (`Part`): one that must be there, one that may be left out or null, and one that has a
value when it is left out.  What is said of a part is said of the values under its name.  So nothing is said
of the order of members, nor of members under other names.

* `Slots.exists_ofMembers`, `Slots.found_of_ofMembers`: what is collected, in terms of the values under
  each name.
* `Slots.Assembles`: readers that go through the fields one after the other.
* `Form.honours_record`: such a reader honours the form of the record.
-/

namespace Lorawan.Json

open Outline

/-! ## Records -/

/-- The values that stand under a name. -/
def valuesOf (name : String) (members : List (Option String × Outline)) : List Outline :=
  members.filterMap fun m => if m.1 = some name then some m.2 else none

/-- A part of a record: the name it stands under, whether it must be there, which values may stand under the
name in an object for a record, and what counts as a fault in such a value. -/
structure Part (ρ : Type) where
  name : String
  isRequired : Bool
  Holds : ρ → List Outline → Prop
  Faults : Outline → Prop

namespace Part

/-- A part that must be there. -/
def required (name : String) (get : ρ → α) (form : Form α) : Part ρ where
  name
  isRequired := true
  Holds r values := ∃ v, values = [v] ∧ form.Writes (get r) v
  Faults v := form.Faults v

/-- A part that is left out or null where a record has nothing of it. -/
def nullable (name : String) (get : ρ → Option α) (form : Form α) : Part ρ where
  name
  isRequired := false
  Holds r values := (get r = none ∧ (values = [] ∨ values = [.null])) ∨
    ∃ a v, get r = some a ∧ values = [v] ∧ form.Writes a v
  Faults v := v ≠ .null ∧ form.Faults v

/-- A part that may be left out where it has one value. -/
def defaulted (name : String) (get : ρ → α) (form : Form α) (default : α) : Part ρ where
  name
  isRequired := false
  Holds r values := (values = [] ∧ get r = default) ∨ ∃ v, values = [v] ∧ form.Writes (get r) v
  Faults v := form.Faults v

end Part

/-- Records with some parts, as objects.  The members may be in any order, and there may be others.  It is a
fault if a part that must be there is not there or is there more than once, or has a fault. -/
def Form.record (parts : List (Part ρ)) : Form ρ where
  Writes r o := ∃ members, o = .object members true ∧ (∀ m ∈ members, m.1.isSome) ∧
    ∀ p ∈ parts, p.Holds r (valuesOf p.name members)
  Faults o := ∃ members, o = .object members true ∧ ∃ p ∈ parts,
    (p.isRequired ∧ (valuesOf p.name members).length ≠ 1) ∨ ∃ v ∈ valuesOf p.name members, p.Faults v

/-! ## What is collected -/

section Collecting

variable {fields : List Field} {found : List (String × Outline)} {f : Field}
  {members : List (Option String × Outline)} {s : Slots}

theorem name_of_find? {name : String} (h : fields.find? (·.name = name) = some f) : f.name = name := by
  have hName := List.find?_some h
  exact of_decide_eq_true hName

theorem mem_valuesOf {name : String} {o : Outline} :
    o ∈ valuesOf name members ↔ (some name, o) ∈ members := by
  rw [valuesOf, List.mem_filterMap]
  constructor
  · rintro ⟨⟨n, v⟩, hMem, hValue⟩
    split at hValue
    · next hName =>
      cases hValue
      exact hName ▸ hMem
    · cases hValue
  · intro hMem
    exact ⟨_, hMem, if_pos rfl⟩

theorem valuesOf_cons_self (name : String) (o : Outline) :
    valuesOf name ((some name, o) :: members) = o :: valuesOf name members :=
  List.filterMap_cons_some (if_pos rfl)

theorem valuesOf_cons_of_ne {name other : String} (h : other ≠ name) (o : Outline) :
    valuesOf name ((some other, o) :: members) = valuesOf name members :=
  List.filterMap_cons_none (if_neg fun hEq => h (Option.some.inj hEq))

theorem lookup_concat_self {name : String} (h : found.lookup name = none) (o : Outline) :
    (found ++ [(name, o)]).lookup name = some o := by
  rw [List.lookup_append, h, List.lookup_cons_self]
  rfl

theorem lookup_concat_of_ne {name other : String} (h : other ≠ name) (o : Outline) :
    (found ++ [(other, o)]).lookup name = found.lookup name := by
  rw [List.lookup_append, List.lookup_cons, beq_false_of_ne (Ne.symm h)]
  exact Option.or_none

/-- What is found under the name of a field is what stands there, which passes the check. -/
theorem Slots.found_of_ofMembers (hNames : (fields.map Field.name).Nodup) (hField : f ∈ fields)
    (h : Slots.ofMembers fields found members = .ok s) :
    (s.found.lookup f.name).toList = (found.lookup f.name).toList ++ valuesOf f.name members ∧
      ∀ v ∈ valuesOf f.name members, f.check v = .ok () := by
  -- a value goes from the members that are to come to those that were found, which leaves their sum
  induction members generalizing found with
  | nil =>
    cases h
    exact ⟨(List.append_nil _).symm, fun _ h => absurd h List.not_mem_nil⟩
  | cons m rest ih =>
    obtain ⟨_ | name, value⟩ := m
    · cases h
    rw [Slots.ofMembers] at h
    split at h
    · next hNone =>
      -- a member that is no field is passed over
      have hOther : name ≠ f.name := fun hEq =>
        List.find?_eq_none.mp hNone f hField (decide_eq_true hEq.symm)
      rw [valuesOf_cons_of_ne hOther]
      split at h
      · exact ih h
      · cases h
    · next g hFound =>
      split at h
      · cases h
      · next hFree =>
        split at h
        · cases h
        · next hCheck =>
          have hRest := ih h
          by_cases hName : name = f.name
          · -- the first value under the name, for the check of the field lets no second one in
            subst hName
            have hNone := Option.not_isSome_iff_eq_none.mp hFree
            have hSame : g = f :=
              eq_of_name_eq hNames (List.mem_of_find?_eq_some hFound) hField (name_of_find? hFound)
            rw [lookup_concat_self hNone] at hRest
            rw [valuesOf_cons_self, hNone]
            exact ⟨hRest.1, List.forall_mem_cons.mpr ⟨hSame ▸ hCheck, hRest.2⟩⟩
          · rw [lookup_concat_of_ne hName] at hRest
            rw [valuesOf_cons_of_ne hName]
            exact hRest

/-- Members whose values pass the checks are collected, if none comes twice that is a field. -/
theorem Slots.exists_ofMembers (hTexts : ∀ m ∈ members, m.1.isSome)
    (hWhole : ∀ m ∈ members, m.2.IsWhole)
    (hOnce : ∀ f ∈ fields, ((found.lookup f.name).toList ++ valuesOf f.name members).length ≤ 1)
    (hChecks : ∀ f ∈ fields, ∀ v ∈ valuesOf f.name members, f.check v = .ok ()) :
    ∃ s, Slots.ofMembers fields found members = .ok s := by
  induction members generalizing found with
  | nil => exact ⟨_, rfl⟩
  | cons m rest ih =>
    obtain ⟨_ | name, value⟩ := m
    · cases hTexts _ List.mem_cons_self
    obtain ⟨hFirst, hWholeRest⟩ := List.forall_mem_cons.mp hWhole
    have hTextsRest := (List.forall_mem_cons.mp hTexts).2
    rw [Slots.ofMembers]
    cases hFound : fields.find? (·.name = name) with
    | none =>
      -- a member that is no field is nothing to any field
      have hOther : ∀ f ∈ fields, name ≠ f.name := fun f hf hEq =>
        List.find?_eq_none.mp hFound f hf (decide_eq_true hEq.symm)
      dsimp only
      rw [if_pos hFirst.ignorable]
      refine ih hTextsRest hWholeRest (fun f hf => ?_) fun f hf => ?_
      · have hCount := hOnce f hf
        rwa [valuesOf_cons_of_ne (hOther f hf)] at hCount
      · have hCheck := hChecks f hf
        rwa [valuesOf_cons_of_ne (hOther f hf)] at hCheck
    | some g =>
      have hField := List.mem_of_find?_eq_some hFound
      obtain rfl := name_of_find? hFound
      have hCount := hOnce g hField
      have hCheck := hChecks g hField
      rw [valuesOf_cons_self] at hCount hCheck
      -- the first of the values leaves no room for another one, before or after it
      obtain ⟨hFree, hLast⟩ : found.lookup g.name = none ∧ valuesOf g.name rest = [] := by
        cases hBefore : found.lookup g.name <;> cases hAfter : valuesOf g.name rest <;>
          rw [hBefore, hAfter] at hCount <;> simp at hCount ⊢
      dsimp only
      rw [if_neg (by rw [hFree]; decide), hCheck value List.mem_cons_self]
      refine ih hTextsRest hWholeRest (fun f hf => ?_) fun f hf => ?_
      · by_cases hName : g.name = f.name
        · rw [← hName, lookup_concat_self hFree, hLast]
          exact Nat.le_refl 1
        · have hCount := hOnce f hf
          rwa [valuesOf_cons_of_ne hName, ← lookup_concat_of_ne hName value] at hCount
      · intro v hv
        by_cases hName : g.name = f.name
        · rw [← hName, hLast] at hv
          exact absurd hv List.not_mem_nil
        · exact hChecks f hf v (by rwa [valuesOf_cons_of_ne hName])

end Collecting

/-! ## Fields and parts -/

theorem discard_eq_ok_iff {x : Except ε α} : discard x = .ok () ↔ ∃ a, x = .ok a := by
  cases x with
  | error e => exact iff_of_false nofun nofun
  | ok a => exact iff_of_true rfl ⟨a, rfl⟩

/-- Whether a field looks for a part: under its name, and what it accepts is what the part may hold. -/
structure Field.Suits (f : Field) (p : Part ρ) : Prop where
  name : f.name = p.name
  single : ∀ {r values}, p.Holds r values → values.length ≤ 1
  accepts : ∀ {r v}, p.Holds r [v] → v.IsWhole → f.check v = .ok ()
  refuses : ∀ {v}, p.Faults v → f.check v ≠ .ok ()

/-- Whether the part of a record has been found. -/
structure Slots.Finds (s : Slots) (p : Part ρ) (r : ρ) : Prop where
  holds : p.Holds r (s.found.lookup p.name).toList
  whole : ∀ v ∈ s.found.lookup p.name, v.IsWhole

section Parts

variable {name : String} {reader : Reader α} {form : Form α} {s : Slots} {r : ρ} {default : α}

theorem readOption_of_ne_null {o : Outline} (h : o ≠ .null) : readOption reader o = some <$> reader o := by
  cases o
  case null => exact absurd rfl h
  all_goals rfl

theorem Reader.Honours.ne_null (h : reader.Honours form) {a : α} {o : Outline} (hWrites : form.Writes a o) :
    o ≠ .null := by
  rintro rfl
  exact h.given a hWrites

theorem Reader.Honours.discard_ne_ok (h : reader.Honours form) {o : Outline} (hFault : form.Faults o) :
    discard (reader o) ≠ .ok () := by
  intro hCheck
  obtain ⟨a, hRead⟩ := discard_eq_ok_iff.mp hCheck
  exact h.rejects o hFault a hRead

theorem suits_required (h : reader.Honours form) (get : ρ → α) :
    (Field.required name reader).Suits (.required name get form) where
  name := rfl
  single := by
    rintro r _ ⟨v, rfl, -⟩
    exact Nat.le_refl 1
  accepts := by
    rintro r v ⟨_, hValues, hWrites⟩ hWhole
    cases hValues
    exact discard_eq_ok_iff.mpr ⟨_, h.reads _ v hWhole hWrites⟩
  refuses := h.discard_ne_ok

theorem suits_nullable (h : reader.Honours form) (get : ρ → Option α) :
    (Field.defaulted name (readOption reader)).Suits (.nullable name get form) where
  name := rfl
  single := by
    rintro r _ (⟨-, rfl | rfl⟩ | ⟨a, v, -, rfl, -⟩)
    · exact Nat.zero_le 1
    · exact Nat.le_refl 1
    · exact Nat.le_refl 1
  accepts := by
    rintro r v (⟨-, hEmpty | hNull⟩ | ⟨a, _, -, hValues, hWrites⟩) hWhole
    · cases hEmpty
    · -- a null is read as nothing, without a look at the part
      cases hNull
      exact discard_eq_ok_iff.mpr ⟨_, rfl⟩
    · cases hValues
      refine discard_eq_ok_iff.mpr ⟨some a, ?_⟩
      rw [readOption_of_ne_null (h.ne_null hWrites), h.reads a v hWhole hWrites]
      rfl
  refuses := by
    rintro v ⟨hNull, hFault⟩ hCheck
    obtain ⟨a, hRead⟩ := discard_eq_ok_iff.mp hCheck
    rw [readOption_of_ne_null hNull] at hRead
    obtain ⟨a', hRead, -⟩ := exists_of_map_eq_ok hRead
    exact h.rejects v hFault a' hRead

theorem suits_defaulted (h : reader.Honours form) (get : ρ → α) :
    (Field.defaulted name reader).Suits (.defaulted name get form default) where
  name := rfl
  single := by
    rintro r _ (⟨rfl, -⟩ | ⟨v, rfl, -⟩)
    · exact Nat.zero_le 1
    · exact Nat.le_refl 1
  accepts := by
    rintro r v (⟨hEmpty, -⟩ | ⟨_, hValues, hWrites⟩) hWhole
    · cases hEmpty
    · cases hValues
      exact discard_eq_ok_iff.mpr ⟨_, h.reads _ v hWhole hWrites⟩
  refuses := h.discard_ne_ok

namespace Slots

theorem Finds.required {get : ρ → α} (hFinds : s.Finds (.required name get form) r)
    (h : reader.Honours form) : s.required name reader = .ok (get r) := by
  obtain ⟨v, hValues, hWrites⟩ := hFinds.holds
  have hFound : s.found.lookup name = some v := Option.toList_eq_singleton_iff.mp hValues
  rw [Slots.required, hFound]
  exact h.reads _ v (hFinds.whole v hFound) hWrites

theorem Finds.nullable {get : ρ → Option α} (hFinds : s.Finds (.nullable name get form) r)
    (h : reader.Honours form) : s.optional name reader = .ok (get r) := by
  rw [Slots.optional, Slots.defaulted]
  rcases hFinds.holds with ⟨hNone, hEmpty | hNull⟩ | ⟨a, v, hSome, hValues, hWrites⟩
  · have hFound : s.found.lookup name = none := Option.toList_eq_nil_iff.mp hEmpty
    rw [hFound, hNone]
  · have hFound : s.found.lookup name = some .null := Option.toList_eq_singleton_iff.mp hNull
    rw [hFound, hNone]
    rfl
  · have hFound : s.found.lookup name = some v := Option.toList_eq_singleton_iff.mp hValues
    rw [hFound, hSome]
    dsimp only
    rw [readOption_of_ne_null (h.ne_null hWrites), h.reads a v (hFinds.whole v hFound) hWrites]
    rfl

theorem Finds.defaulted {get : ρ → α} (hFinds : s.Finds (.defaulted name get form default) r)
    (h : reader.Honours form) : s.defaulted name reader default = .ok (get r) := by
  rw [Slots.defaulted]
  rcases hFinds.holds with ⟨hEmpty, hDefault⟩ | ⟨v, hValues, hWrites⟩
  · have hFound : s.found.lookup name = none := Option.toList_eq_nil_iff.mp hEmpty
    rw [hFound, hDefault]
  · have hFound : s.found.lookup name = some v := Option.toList_eq_singleton_iff.mp hValues
    rw [hFound]
    exact h.reads _ v (hFinds.whole v hFound) hWrites

/-- What must be there and was read was there. -/
theorem isSome_of_required {a : α} (h : s.required name reader = .ok a) : (s.found.lookup name).isSome := by
  unfold Slots.required at h
  split at h
  · next hFound =>
    rw [hFound]
    rfl
  · cases h

end Slots

end Parts

/-! ## Readers of records -/

/-- Whether an outcome comes from reading fields one after the other and putting their values together.
What is known of the record is that its parts are the values that were read before. -/
inductive Slots.Assembles (s : Slots) :
    List Field → List (Part ρ) → (ρ → Prop) → Except DecodeError ρ → Prop
  | done {known : ρ → Prop} {r : ρ} (h : ∀ r', known r' → r' = r) : Assembles s [] [] known (.ok r)
  | required {α : Type} [Nonempty α] {name : String} {reader : Reader α} {form : Form α} {get : ρ → α}
      {fields : List Field} {parts : List (Part ρ)} {known : ρ → Prop} {rest : α → Except DecodeError ρ}
      (hReader : reader.Honours form)
      (hRest : ∀ a, Assembles s fields parts (fun r => known r ∧ get r = a) (rest a)) :
    Assembles s (.required name reader :: fields) (.required name get form :: parts) known
      (s.required name reader >>= rest)
  | nullable {α : Type} {name : String} {reader : Reader α} {form : Form α} {get : ρ → Option α}
      {fields : List Field} {parts : List (Part ρ)} {known : ρ → Prop}
      {rest : Option α → Except DecodeError ρ} (hReader : reader.Honours form)
      (hRest : ∀ a, Assembles s fields parts (fun r => known r ∧ get r = a) (rest a)) :
    Assembles s (.defaulted name (readOption reader) :: fields) (.nullable name get form :: parts) known
      (s.optional name reader >>= rest)
  | defaulted {α : Type} {name : String} {reader : Reader α} {form : Form α} {get : ρ → α} {default : α}
      {fields : List Field} {parts : List (Part ρ)} {known : ρ → Prop} {rest : α → Except DecodeError ρ}
      (hReader : reader.Honours form)
      (hRest : ∀ a, Assembles s fields parts (fun r => known r ∧ get r = a) (rest a)) :
    Assembles s (.defaulted name reader :: fields) (.defaulted name get form default :: parts) known
      (s.defaulted name reader default >>= rest)

namespace Slots.Assembles

variable {s : Slots} {fields : List Field} {parts : List (Part ρ)} {known : ρ → Prop}
  {x : Except DecodeError ρ} {r : ρ}

theorem suits (h : s.Assembles fields parts known x) : List.Forall₂ Field.Suits fields parts := by
  induction h with
  | done => exact .nil
  | @required α hNonempty _ _ _ get _ _ _ _ hReader _ ih =>
    exact .cons (suits_required hReader get) (ih hNonempty.some)
  | @nullable α _ _ _ get _ _ _ _ hReader _ ih => exact .cons (suits_nullable hReader get) (ih none)
  | @defaulted α _ _ _ get default _ _ _ _ hReader _ ih =>
    exact .cons (suits_defaulted hReader get) (ih default)

/-- A record is put together of its parts. -/
theorem eq_ok (h : s.Assembles fields parts known x) (hKnown : known r)
    (hFinds : ∀ p ∈ parts, s.Finds p r) : x = .ok r := by
  induction h with
  | done h => rw [h r hKnown]
  | @required α _ _ reader _ get _ _ _ rest hReader _ ih =>
    obtain ⟨hFirst, hFinds⟩ := List.forall_mem_cons.mp hFinds
    rw [hFirst.required hReader]
    exact ih (get r) ⟨hKnown, rfl⟩ hFinds
  | @nullable α _ reader _ get _ _ _ rest hReader _ ih =>
    obtain ⟨hFirst, hFinds⟩ := List.forall_mem_cons.mp hFinds
    rw [hFirst.nullable hReader]
    exact ih (get r) ⟨hKnown, rfl⟩ hFinds
  | @defaulted α _ reader _ get _ _ _ _ rest hReader _ ih =>
    obtain ⟨hFirst, hFinds⟩ := List.forall_mem_cons.mp hFinds
    rw [hFirst.defaulted hReader]
    exact ih (get r) ⟨hKnown, rfl⟩ hFinds

/-- No record is put together without a part that must be there. -/
theorem isSome_of_isRequired (h : s.Assembles fields parts known x) (hRecord : x = .ok r) :
    ∀ p ∈ parts, p.isRequired → (s.found.lookup p.name).isSome := by
  induction h with
  | done => exact fun _ h => absurd h List.not_mem_nil
  | required _ _ ih =>
    obtain ⟨a, hFirst, hRest⟩ := exists_of_bind_eq_ok hRecord
    exact List.forall_mem_cons.mpr ⟨fun _ => isSome_of_required hFirst, ih a hRest⟩
  | nullable _ _ ih =>
    obtain ⟨a, -, hRest⟩ := exists_of_bind_eq_ok hRecord
    exact List.forall_mem_cons.mpr ⟨nofun, ih a hRest⟩
  | defaulted _ _ ih =>
    obtain ⟨a, -, hRest⟩ := exists_of_bind_eq_ok hRecord
    exact List.forall_mem_cons.mpr ⟨nofun, ih a hRest⟩

end Slots.Assembles

theorem eq_singleton_of_mem {as : List α} {a : α} (hLength : as.length ≤ 1) (h : a ∈ as) : as = [a] := by
  match as, hLength, h with
  | [_], _, h => rw [List.mem_singleton.mp h]

theorem exists_of_forall₂ {R : α → β → Prop} {as : List α} {bs : List β} (h : List.Forall₂ R as bs) :
    ∀ a ∈ as, ∃ b ∈ bs, R a b := by
  induction h with
  | nil => exact fun _ h => absurd h List.not_mem_nil
  | @cons a b as bs hFirst _ ih =>
    refine List.forall_mem_cons.mpr ⟨⟨b, List.mem_cons_self, hFirst⟩, fun a' ha' => ?_⟩
    obtain ⟨b', hMem, hRel⟩ := ih a' ha'
    exact ⟨b', List.mem_cons_of_mem b hMem, hRel⟩

/-- A reader of records honours their form if it assembles the record of what is found for its fields. -/
theorem Form.honours_record {fields : List Field} {parts : List (Part ρ)} {reader : Reader ρ}
    {build : Slots → Except DecodeError ρ} (hReader : ∀ o, reader o = Slots.of fields o >>= build)
    (hNames : (fields.map Field.name).Nodup)
    (hBuild : ∀ s : Slots, s.Assembles fields parts (fun _ => True) (build s)) :
    reader.Honours (.record parts) where
  reads := by
    rintro r _ hWhole ⟨members, rfl, hTexts, hHolds⟩
    have hSuits := (hBuild ⟨[]⟩).suits
    have hValues : ∀ name, ∀ v ∈ valuesOf name members, v.IsWhole := by
      intro name v hv
      exact hWhole.of_mem_object _ (mem_valuesOf.mp hv)
    -- under the name of a field stands what its part may hold, which is one value at most
    have hOnce : ∀ f ∈ fields, (valuesOf f.name members).length ≤ 1 := by
      intro f hf
      obtain ⟨p, hp, hSuit⟩ := exists_of_forall₂ hSuits f hf
      rw [hSuit.name]
      exact hSuit.single (hHolds p hp)
    have hChecks : ∀ f ∈ fields, ∀ v ∈ valuesOf f.name members, f.check v = .ok () := by
      intro f hf v hv
      obtain ⟨p, hp, hSuit⟩ := exists_of_forall₂ hSuits f hf
      have hOnly : valuesOf p.name members = [v] :=
        eq_singleton_of_mem (hSuit.single (hHolds p hp)) (hSuit.name ▸ hv)
      exact hSuit.accepts (hOnly ▸ hHolds p hp) (hValues _ v hv)
    obtain ⟨s, hSlots⟩ : ∃ s, Slots.ofMembers fields [] members = .ok s :=
      Slots.exists_ofMembers hTexts hWhole.of_mem_object hOnce hChecks
    have hOf : Slots.of fields (.object members true) = .ok s := by
      rw [Slots.of, hSlots]
      rfl
    rw [hReader, hOf]
    -- and what stands there is what is found for the part
    refine (hBuild s).eq_ok trivial fun p hp => ?_
    obtain ⟨f, hf, hSuit⟩ := exists_of_forall₂ hSuits.flip p hp
    have hFound := (Slots.found_of_ofMembers hNames hf hSlots).1
    rw [hSuit.name] at hFound
    refine ⟨?_, fun v hv => hValues p.name v ?_⟩
    · rw [hFound]
      exact hHolds p hp
    · have hMem := Option.mem_toList.mpr hv
      rwa [hFound] at hMem
  rejects := by
    rintro _ ⟨members, rfl, p, hp, hFault⟩ r hRead
    rw [hReader] at hRead
    obtain ⟨s, hOf, hMade⟩ := exists_of_bind_eq_ok hRead
    obtain ⟨s', hSlots, hSame⟩ := exists_of_bind_eq_ok hOf
    cases hSame
    -- the members were all collected, so that every value under the name has passed the check
    obtain ⟨f, hf, hSuit⟩ := exists_of_forall₂ (hBuild s).suits.flip p hp
    obtain ⟨hFound, hChecks⟩ := Slots.found_of_ofMembers hNames hf hSlots
    rw [hSuit.name] at hFound hChecks
    rcases hFault with ⟨hRequired, hCount⟩ | ⟨v, hv, hFault⟩
    · -- the record was made, so there is one value, and there is none that was not found
      obtain ⟨v, hSome⟩ := Option.isSome_iff_exists.mp ((hBuild s).isSome_of_isRequired hMade p hp hRequired)
      rw [hSome] at hFound
      exact hCount (congrArg List.length hFound).symm
    · exact hSuit.refuses hFault (hChecks v hv)
  given := by
    rintro r ⟨members, hNull, -⟩
    cases hNull

end Lorawan.Json
