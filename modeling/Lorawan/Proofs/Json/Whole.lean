import Lorawan.Json.Shape

/-!
# Whole documents

A document whose value is not broken off is whole in all its parts: nothing is left open or broken at any
depth.  So a reader that passes over a member of such a document need not look into it.

* `Outline.readsWhole`: what is read to its end is whole, be it a value, items or members.
* `Document.isWhole_of_closed`: a document that is an object.
-/

namespace Lorawan.Json

namespace Outline

/-- Whether nothing in an outline is broken or left open. -/
inductive IsWhole : Outline → Prop
  | null : IsWhole .null
  | bool (b : Bool) : IsWhole (.bool b)
  | number (n : Numeral) : IsWhole (.number n)
  | float (x : Float) : IsWhole (.float x)
  | text (s : Option String) : IsWhole (.text s)
  | array {items : List Outline} (h : ∀ o ∈ items, IsWhole o) : IsWhole (.array items true)
  | object {members : List (Option String × Outline)} (h : ∀ m ∈ members, IsWhole m.2) :
      IsWhole (.object members true)

namespace IsWhole

variable {o : Outline} {items : List Outline} {members : List (Option String × Outline)}

theorem of_mem_array {closed : Bool} (h : IsWhole (.array items closed)) : ∀ o ∈ items, o.IsWhole := by
  cases h with
  | array h => exact h

theorem of_mem_object {closed : Bool} (h : IsWhole (.object members closed)) :
    ∀ m ∈ members, m.2.IsWhole := by
  cases h with
  | object h => exact h

/-- What is whole can be passed over. -/
theorem ignorable (h : o.IsWhole) : Slots.ofMembers.ignorable o = true := by
  cases h <;> rfl

end IsWhole

/-- What the readers of one amount of fuel have read is whole, if they have come to its end. -/
structure ReadsWhole (fuel : Nat) : Prop where
  value : ∀ {bs o rest}, readValue fuel bs = (o, some rest) → o.IsWhole
  items : ∀ {bs items rest}, readItems fuel bs = (items, some rest) → ∀ o ∈ items, o.IsWhole
  members : ∀ {bs members rest}, readMembers fuel bs = (members, some rest) → ∀ m ∈ members, m.2.IsWhole

theorem ReadsWhole.succ_value {fuel : Nat} (ih : ReadsWhole fuel) {bs rest : List UInt8} {o : Outline}
    (h : readValue (fuel + 1) bs = (o, some rest)) : o.IsWhole := by
  -- the first byte says what it is: nothing, a text, an array, an object, or a word or numeral
  rw [readValue] at h
  split at h
  · cases h
  · split at h
    · obtain ⟨rfl, -⟩ := Prod.mk.inj h
      exact .text _
    · cases h
  · split at h
    · obtain ⟨rfl, -⟩ := Prod.mk.inj h
      exact .array (by simp)
    · -- an array is closed if something follows it
      split at h
      next items after hItems =>
        obtain ⟨rfl, rfl⟩ := Prod.mk.inj h
        exact .array (ih.items hItems)
  · split at h
    · obtain ⟨rfl, -⟩ := Prod.mk.inj h
      exact .object (by simp)
    · split at h
      next members after hMembers =>
        obtain ⟨rfl, rfl⟩ := Prod.mk.inj h
        exact .object (ih.members hMembers)
  · split at h
    · obtain ⟨rfl, -⟩ := Prod.mk.inj h
      exact .null
    · obtain ⟨rfl, -⟩ := Prod.mk.inj h
      exact .bool true
    · obtain ⟨rfl, -⟩ := Prod.mk.inj h
      exact .bool false
    · split at h
      · obtain ⟨rfl, -⟩ := Prod.mk.inj h
        exact .number _
      · cases h

theorem ReadsWhole.succ_items {fuel : Nat} (ih : ReadsWhole fuel) {bs rest : List UInt8}
    {items : List Outline} (h : readItems (fuel + 1) bs = (items, some rest)) :
    ∀ o ∈ items, o.IsWhole := by
  rw [readItems] at h
  split at h
  · cases h
  · next item rest' hItem =>
    have hFirst := ih.value hItem
    split at h
    · obtain ⟨rfl, -⟩ := Prod.mk.inj h
      exact List.forall_mem_singleton.mpr hFirst
    · split at h
      · cases h
      · split at h
        next items' after hRest =>
          obtain ⟨rfl, rfl⟩ := Prod.mk.inj h
          exact List.forall_mem_cons.mpr ⟨hFirst, ih.items hRest⟩
    · cases h

theorem ReadsWhole.succ_members {fuel : Nat} (ih : ReadsWhole fuel) {bs rest : List UInt8}
    {members : List (Option String × Outline)} (h : readMembers (fuel + 1) bs = (members, some rest)) :
    ∀ m ∈ members, m.2.IsWhole := by
  rw [readMembers] at h
  split at h
  -- a member is a name, a colon and a value; what fails has no text left
  · split at h
    · cases h
    · next name rest₁ _ =>
      split at h
      · next rest₂ _ =>
        split at h
        · cases h
        · next value rest₃ hValue =>
          have hFirst := ih.value hValue
          split at h
          · obtain ⟨rfl, -⟩ := Prod.mk.inj h
            exact List.forall_mem_singleton.mpr hFirst
          · split at h
            next members' after hRest =>
              obtain ⟨rfl, rfl⟩ := Prod.mk.inj h
              exact List.forall_mem_cons.mpr ⟨hFirst, ih.members hRest⟩
          · cases h
      · cases h
  · cases h

theorem readsWhole (fuel : Nat) : ReadsWhole fuel := by
  induction fuel with
  | zero =>
    -- without fuel nothing is read to its end
    refine ⟨fun h => ?_, fun h => ?_, fun h => ?_⟩
    · rw [readValue] at h
      cases h
    · rw [readItems] at h
      cases h
    · rw [readMembers] at h
      cases h
  | succ fuel ih => exact ⟨ih.succ_value, ih.succ_items, ih.succ_members⟩

/-- An object is closed only if it has come to its end. -/
theorem exists_rest_of_closed {fuel : Nat} {bs : List UInt8} {members : List (Option String × Outline)}
    {after : Option (List UInt8)} (h : readValue fuel bs = (.object members true, after)) :
    ∃ rest, after = some rest := by
  cases fuel with
  | zero =>
    rw [readValue] at h
    cases h
  | succ fuel =>
    -- only the fourth case makes an object, which is closed if something follows it
    rw [readValue] at h
    split at h
    · cases h
    · split at h <;> cases h
    · split at h
      · cases h
      · split at h
        cases h
    · split at h
      · obtain ⟨-, rfl⟩ := Prod.mk.inj h
        exact ⟨_, rfl⟩
      · split at h
        next members' after' _ =>
          obtain ⟨hObject, rfl⟩ := Prod.mk.inj h
          exact Option.isSome_iff_exists.mp (Outline.object.inj hObject).2
    · split at h
      · cases h
      · cases h
      · cases h
      · split at h <;> cases h

end Outline

/-- A document that is an object is whole. -/
theorem Document.isWhole_of_closed {bs : List UInt8} {members : List (Option String × Outline)}
    (h : (Document.read bs).root = .object members true) : (Document.read bs).root.IsWhole := by
  rcases hValue : Outline.readValue (2 * bs.length + 2) bs with ⟨root, after⟩
  have hRoot : (Document.read bs).root = root := by
    rw [Document.read, hValue]
    cases after <;> rfl
  rw [hRoot] at h ⊢
  rw [h] at hValue ⊢
  obtain ⟨rest, rfl⟩ := Outline.exists_rest_of_closed hValue
  exact (Outline.readsWhole _).value hValue

end Lorawan.Json
