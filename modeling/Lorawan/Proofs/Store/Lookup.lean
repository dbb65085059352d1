import Lorawan.Store.Basic

/-!
# What look-ups find

* **Sessions**: `Activation.le` is a total order up to activations that agree in time and place, so among
  the activations of a device there is one that no other is newer than, and `Store.lastActivation` finds
  it (`Store.lastActivation_newest`).
* **Gateways**: a look-up of some gateways knows of each of them what the store knows
  (`Store.get?_getGateways`).
-/

namespace Lorawan

/-! ## The order of activations -/

namespace Time.Instant

theorem le_iff {a b : Instant} :
    a ≤ b ↔ a.seconds < b.seconds ∨ (a.seconds = b.seconds ∧ a.nanos ≤ b.nanos) := by
  show a.le b = true ↔ _
  simp [Instant.le]

theorem eq_iff {a b : Instant} : a = b ↔ a.seconds = b.seconds ∧ a.nanos = b.nanos := by
  constructor
  · rintro rfl
    exact ⟨rfl, rfl⟩
  · rintro ⟨hSeconds, hNanos⟩
    cases a
    cases b
    simp_all

theorem le_refl (a : Instant) : a ≤ a := by
  rw [le_iff]
  exact Or.inr ⟨rfl, Nat.le_refl _⟩

theorem le_trans {a b c : Instant} (hab : a ≤ b) (hbc : b ≤ c) : a ≤ c := by
  rw [le_iff] at *
  omega

theorem le_total (a b : Instant) : a ≤ b ∨ b ≤ a := by
  rw [le_iff, le_iff]
  omega

theorem le_antisymm {a b : Instant} (hab : a ≤ b) (hba : b ≤ a) : a = b := by
  rw [le_iff] at hab hba
  rw [eq_iff]
  omega

end Time.Instant

namespace Activation

variable {a b c : Activation}

theorem le_iff :
    a.le b = true ↔ (a.createdAt = b.createdAt ∧ a.id ≤ b.id) ∨
      (a.createdAt ≠ b.createdAt ∧ a.createdAt ≤ b.createdAt) := by
  unfold Activation.le
  split <;> simp [*]

theorem le_refl (a : Activation) : a.le a = true := by
  rw [le_iff]
  exact Or.inl ⟨rfl, Nat.le_refl _⟩

theorem le_trans (hab : a.le b = true) (hbc : b.le c = true) : a.le c = true := by
  rw [le_iff, Time.Instant.le_iff, ne_eq, Time.Instant.eq_iff] at *
  omega

theorem le_total (a b : Activation) : a.le b = true ∨ b.le a = true := by
  rw [le_iff, le_iff, Time.Instant.le_iff, Time.Instant.le_iff, ne_eq, ne_eq, Time.Instant.eq_iff,
    Time.Instant.eq_iff]
  omega

end Activation

namespace Store

/-- The newer of the best activation so far and the next one. -/
def newerOf (best : Option Activation) (a : Activation) : Option Activation :=
  if best.all (·.le a) then some a else best

theorem newest_eq_foldl (as : List Activation) : newest as = as.foldl newerOf none := rfl

/-- What the fold of `newest` keeps, from any start: the result is the start or one of the list, and
neither the start nor one of the list is newer. -/
theorem foldl_newerOf_spec {as : List Activation} {best : Option Activation} {a : Activation}
    (h : as.foldl newerOf best = some a) :
    (best = some a ∨ a ∈ as) ∧ (∀ b ∈ best, b.le a = true) ∧ ∀ b ∈ as, b.le a = true := by
  induction as generalizing best with
  | nil =>
    have hBest : best = some a := h
    subst hBest
    exact ⟨Or.inl rfl, by simp [Activation.le_refl], by simp⟩
  | cons c as ih =>
    obtain ⟨hMem, hStart, hRest⟩ := ih h
    cases best with
    | none =>
      have hc : c.le a = true := hStart c rfl
      refine ⟨Or.inr ?_, by simp, List.forall_mem_cons.mpr ⟨hc, hRest⟩⟩
      rcases hMem with hMem | hMem
      · exact List.mem_cons.mpr (Or.inl (Option.some.inj hMem).symm)
      · exact List.mem_cons_of_mem c hMem
    | some b =>
      -- the newer of the two goes on, and what it is newer than stays behind it
      by_cases hbc : b.le c = true
      · have hNewer : newerOf (some b) c = some c := by simp [newerOf, hbc]
        rw [hNewer] at hMem hStart
        have hc : c.le a = true := hStart c rfl
        refine ⟨Or.inr ?_, by simpa using Activation.le_trans hbc hc,
          List.forall_mem_cons.mpr ⟨hc, hRest⟩⟩
        rcases hMem with hMem | hMem
        · exact List.mem_cons.mpr (Or.inl (Option.some.inj hMem).symm)
        · exact List.mem_cons_of_mem c hMem
      · have hOlder : newerOf (some b) c = some b := by simp [newerOf, hbc]
        rw [hOlder] at hMem hStart
        have hb : b.le a = true := hStart b rfl
        have hcb : c.le b = true := (Activation.le_total b c).resolve_left hbc
        exact ⟨hMem.imp id (List.mem_cons_of_mem c), by simpa using hb,
          List.forall_mem_cons.mpr ⟨Activation.le_trans hcb hb, hRest⟩⟩

theorem mem_of_newest {as : List Activation} {a : Activation} (h : newest as = some a) : a ∈ as := by
  rw [newest_eq_foldl] at h
  exact (foldl_newerOf_spec h).1.resolve_left (by simp)

theorem le_newest {as : List Activation} {a : Activation} (h : newest as = some a) :
    ∀ b ∈ as, b.le a = true := by
  rw [newest_eq_foldl] at h
  exact (foldl_newerOf_spec h).2.2

theorem foldl_newerOf_isSome (as : List Activation) (a : Activation) :
    (as.foldl newerOf (some a)).isSome = true := by
  induction as generalizing a with
  | nil => rfl
  | cons b as ih =>
    -- whichever of the two goes on, there is one
    rw [List.foldl_cons, newerOf]
    split
    · exact ih b
    · exact ih a

theorem newest_eq_none_iff {as : List Activation} : newest as = none ↔ as = [] := by
  rw [newest_eq_foldl]
  cases as with
  | nil => exact ⟨fun _ => rfl, fun _ => rfl⟩
  | cons a as =>
    have hSome : ((a :: as).foldl newerOf none).isSome = true := foldl_newerOf_isSome as a
    constructor
    · intro hNone
      rw [hNone] at hSome
      cases hSome
    · intro hNil
      cases hNil

theorem lastActivation_eq_none_iff {s : Store} {devEui : Eui64} :
    s.lastActivation devEui = none ↔ ∀ a ∈ s.activations, a.devEui ≠ devEui := by
  unfold lastActivation activationsOf
  rw [newest_eq_none_iff, List.filter_eq_nil_iff]
  simp only [decide_eq_true_eq, ne_eq]

/-- Whether this is an activation of the device that no other activation of it is newer than. -/
structure IsNewest (s : Store) (devEui : Eui64) (a : Activation) : Prop where
  mem : a ∈ s.activations
  belongs : a.devEui = devEui
  newest : ∀ b ∈ s.activations, b.devEui = devEui → b.le a = true

theorem lastActivation_newest {s : Store} {devEui : Eui64} {a : Activation}
    (h : s.lastActivation devEui = some a) : s.IsNewest devEui a := by
  have hMem := mem_of_newest h
  have hNewest := le_newest h
  unfold activationsOf at hMem hNewest
  rw [List.mem_filter, decide_eq_true_iff] at hMem
  exact ⟨hMem.1, hMem.2, fun b hb hDevice => hNewest b (by simp [hb, hDevice])⟩

theorem activationsOf_insertActivation_other {devEui id : Eui64} (s : Store) (hId : devEui ≠ id)
    (devAddr : DevAddr) (appSKey : Aes128Key) (createdAt : Time.Instant) :
    (s.insertActivation devEui devAddr appSKey createdAt).2.activationsOf id = s.activationsOf id := by
  simp [activationsOf, insertActivation, nextActivation, hId]

/-! ## Gateways -/

theorem insertAll_getGateways {s : Store} {ids : List Eui64} {t : Table Eui64 Gateway} {id : Eui64} :
    (t.insertAll (ids.filterMap fun id => (s.gateways.get? id).map (id, ·))).get? id =
      if id ∈ ids then (s.gateways.get? id).or (t.get? id) else t.get? id := by
  induction ids generalizing t with
  | nil => rfl
  | cons first ids ih =>
    cases hFirst : s.gateways.get? first with
    | none =>
      rw [List.filterMap_cons_none (by simp [hFirst]), ih]
      by_cases h : id = first
      · subst h
        simp [hFirst]
      · simp [h]
    | some g =>
      rw [List.filterMap_cons_some (b := (first, g)) (by simp [hFirst])]
      have hStep : ∀ rows, t.insertAll ((first, g) :: rows) = (t.insert first g).insertAll rows :=
        fun _ => rfl
      rw [hStep, ih, Table.get?_insert]
      -- a gateway that is listed twice is inserted twice, each time with its one row
      by_cases h : id = first
      · subst h
        simp [hFirst]
      · simp [h]

/-- The look-up of some gateways knows of those what the store knows of them. -/
theorem get?_getGateways {s : Store} {ids : List Eui64} {id : Eui64} (h : id ∈ ids) :
    (s.getGateways ids).get? id = s.gateways.get? id := by
  unfold getGateways
  rw [insertAll_getGateways, if_pos h]
  simp

end Store

end Lorawan
