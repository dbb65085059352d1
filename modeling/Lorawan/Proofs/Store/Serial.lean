import Lorawan.Proofs.Store.Mutation
import Lorawan.Store.Access
import Mathlib.Data.List.Basic

/-!
# Concurrent accesses have a serial order

Reads and updates of devices take turns in any order, and any of them may be dropped.  Still each row ends
as if the completed updates had been made one after the other, in the order in which they have taken the
row's lock, and every access returns the row as it was at its place in this order
(`Accesses.serializable`).

* **The order**: `Accesses.lockOrder` tells which tasks have taken the lock of a row.
* **One row**: `Serial` relates a row and its tasks to the order.  It is enough to look at one row, for
  the tasks of others do not touch it (`Serial.apart`).  A task of the row takes the lock
  (`Serial.lock`), writes (`Serial.write`) or just goes on (`Serial.restage`).
* **Changes**: where updates are made by mutations, times only move forward, and mutations of different
  parts do not get in each other's way (`Device.combines_applyAll`).
-/

namespace Lorawan

namespace Table

variable {κ ν μ : Type} [DecidableEq κ]

/-- A look-up after all rows were changed. -/
theorem get?_map (rows : List (κ × ν)) (f : ν → μ) (key : κ) :
    (⟨rows.map fun r => (r.1, f r.2)⟩ : Table κ μ).get? key =
      ((⟨rows⟩ : Table κ ν).get? key).map f := by
  unfold get?
  induction rows with
  | nil => rfl
  | cons r rows ih =>
    obtain ⟨k, row⟩ := r
    by_cases h : key = k
    · simp [h]
    · simpa [List.lookup_cons, beq_eq_false_iff_ne.mpr h] using ih

end Table

namespace Store

/-! ## Tasks -/

namespace Stage

/-- Whether a task of this stage holds the lock of its row. -/
def holdsLock : Stage → Bool
  | .locked | .copied _ | .resumed _ | .complete _ => true
  | _ => false

/-- What a task returns, if it has read or written its row or has found none. -/
def result? : Stage → Option (Option Device)
  | .complete d => some (some d)
  | .finished result => some result
  | _ => none

end Stage

namespace Access

/-- The change that a task has made. -/
def made? (t : Access) : Option (Device → Device) :=
  match t.stage with
  | .complete _ | .finished (some _) => t.change
  | _ => none

/-- What a move may make of a task and its row. -/
inductive Advance (t : Access) (number : Nat) :
    Option LockedRow → Stage → Option LockedRow → Prop
  | miss (h : t.stage = .start) : Advance t number none (.finished none) none
  | find (row : LockedRow) (h : t.stage = .start) : Advance t number (some row) .waiting (some row)
  | lock (d : Device) (h : t.stage = .waiting) :
    Advance t number (some ⟨d, none⟩) .locked (some ⟨d, some number⟩)
  | read (row : LockedRow) (h : t.stage = .locked) (hChange : t.change = none) :
    Advance t number (some row) (.complete row.device) (some row)
  | copy (row : LockedRow) (h : t.stage = .locked) :
    Advance t number (some row) (.copied row.device) (some row)
  | resume (row : Option LockedRow) {d : Device} (h : t.stage = .copied d) :
    Advance t number row (.resumed d) row
  | write (row : LockedRow) {d : Device} {change : Device → Device} (h : t.stage = .resumed d)
      (hChange : t.change = some change) :
    Advance t number (some row) (.complete (change d)) (some { row with device := change d })
  | unlock (row : LockedRow) {d : Device} (h : t.stage = .complete d) :
    Advance t number (some row) (.finished (some d)) (some { row with holder := none })
  | leave (row : Option LockedRow) (h : t.stage = .start ∨ t.stage = .waiting) :
    Advance t number row .dropped row
  | free (row : LockedRow) (h : t.stage = .locked ∨ ∃ d, t.stage = .copied d) :
    Advance t number (some row) .dropped (some { row with holder := none })

theorem advance_of_move? {t : Access} {m : Move} {row row' : Option LockedRow} {stage : Stage}
    (h : t.move? row m = some (stage, row')) : t.Advance m.number row stage row' := by
  rcases t with ⟨devEui, change, stage₀⟩
  cases m with
  | step number =>
    -- where the task stands says what it asks of the row
    cases stage₀ with
    | start =>
      rcases row with _ | row <;> cases h
      · exact .miss rfl
      · exact .find row rfl
    | waiting =>
      rcases row with _ | ⟨d, _ | holder⟩ <;> cases h
      exact .lock d rfl
    | locked =>
      rcases row with _ | row
      · cases h
      · rcases change with _ | change <;> cases h
        · exact .read row rfl rfl
        · exact .copy row rfl
    | copied d =>
      cases h
      exact .resume row rfl
    | resumed d =>
      rcases row with _ | row
      · cases h
      · rcases change with _ | change <;> cases h
        exact .write row rfl rfl
    | complete d =>
      rcases row with _ | row <;> cases h
      exact .unlock row rfl
    | finished result => cases h
    | dropped => cases h
  | drop number =>
    -- only from the lock on is there something to give back
    cases stage₀ with
    | start =>
      cases h
      exact .leave row (Or.inl rfl)
    | waiting =>
      cases h
      exact .leave row (Or.inr rfl)
    | locked =>
      rcases row with _ | row <;> cases h
      exact .free row (Or.inl rfl)
    | copied d =>
      rcases row with _ | row <;> cases h
      exact .free row (Or.inr ⟨d, rfl⟩)
    | _ => cases h

end Access

/-! ## Lock order -/

namespace Accesses

/-- The same after a move, if that is possible. -/
def turn (a : Accesses) (m : Move) : Accesses := (a.move? m).getD a

theorem play_cons (a : Accesses) (m : Move) (moves : List Move) :
    a.play (m :: moves) = (a.turn m).play moves := rfl

/-- The task that takes the lock of a row in a move. -/
def taker? (devEui : Eui64) (a : Accesses) (m : Move) : Option Nat := do
  let task ← a.tasks[m.number]?
  let (stage, _) ← task.move? (a.rows.get? task.devEui) m
  if task.devEui = devEui ∧ stage matches .locked then some m.number else none

/-- The tasks that take the lock of a row, in this order. -/
def lockOrder (devEui : Eui64) : Accesses → List Move → List Nat
  | _, [] => []
  | a, m :: moves => (a.taker? devEui m).toList ++ lockOrder devEui (a.turn m) moves

/-- The changes that some tasks have made. -/
def changes (a : Accesses) (numbers : List Nat) : List (Device → Device) :=
  numbers.filterMap fun number => a.tasks[number]?.bind Access.made?

variable {a a' : Accesses} {devEui id : Eui64} {number : Nat} {t : Access} {stage : Stage}
  {row : Option LockedRow}

theorem turn_cases (devEui : Eui64) (a : Accesses) (m : Move) :
    (a.turn m = a ∧ a.taker? devEui m = none) ∨
      ∃ t stage row, a.tasks[m.number]? = some t ∧
        t.Advance m.number (a.rows.get? t.devEui) stage row ∧
        a.turn m = a.set m.number t.devEui stage row ∧
        a.taker? devEui m =
          if t.devEui = devEui ∧ stage matches .locked then some m.number else none := by
  unfold turn move? taker?
  cases hTask : a.tasks[m.number]? with
  | none => exact Or.inl ⟨rfl, rfl⟩
  | some t =>
    cases hMove : t.move? (a.rows.get? t.devEui) m with
    | none => exact Or.inl (by simp [hMove])
    | some result =>
      obtain ⟨stage, row⟩ := result
      refine Or.inr ⟨t, stage, row, rfl, Access.advance_of_move? hMove, ?_, ?_⟩
      · simp [hMove]
      · simp [hMove]

theorem stage_ofStore {s : Store} {requests : List (Eui64 × Option (Device → Device))}
    (ht : (ofStore s requests).tasks[number]? = some t) : t.stage = .start := by
  obtain ⟨r, -, rfl⟩ := List.mem_map.mp (List.mem_of_getElem? ht)
  rfl

/-! ### One task at another stage -/

theorem tasks_set_self (ht : a.tasks[number]? = some t) :
    (a.set number devEui stage row).tasks[number]? = some { t with stage } := by
  simp [set, ht]

theorem tasks_set_of_ne {k : Nat} (h : k ≠ number) :
    (a.set number devEui stage row).tasks[k]? = a.tasks[k]? := by
  simp [set, Ne.symm h]

theorem tasks_set_cases {k : Nat} {t' : Access} (ht : a.tasks[number]? = some t)
    (ht' : (a.set number devEui stage row).tasks[k]? = some t') :
    (k = number ∧ t' = { t with stage }) ∨ (k ≠ number ∧ a.tasks[k]? = some t') := by
  by_cases hk : k = number
  · subst hk
    rw [tasks_set_self ht] at ht'
    exact Or.inl ⟨rfl, (Option.some.inj ht').symm⟩
  · rw [tasks_set_of_ne hk] at ht'
    exact Or.inr ⟨hk, ht'⟩

/-- A task is of the same row at every stage. -/
theorem exists_tasks_set {k : Nat} (h : ∃ t, a.tasks[k]? = some t ∧ t.devEui = id) :
    ∃ t, (a.set number devEui stage row).tasks[k]? = some t ∧ t.devEui = id := by
  obtain ⟨t, ht, hId⟩ := h
  by_cases hk : k = number
  · subst hk
    exact ⟨_, tasks_set_self ht, hId⟩
  · exact ⟨t, (tasks_set_of_ne hk).trans ht, hId⟩

theorem get?_set_self (row : LockedRow) :
    (a.set number devEui stage (some row)).rows.get? devEui = some row :=
  Table.get?_insert_self _ _ _

theorem get?_set_of_ne (h : id ≠ devEui) :
    (a.set number devEui stage row).rows.get? id = a.rows.get? id := by
  cases row with
  | none => rfl
  | some row =>
    show (a.rows.insert devEui row).get? id = a.rows.get? id
    rw [Table.get?_insert, if_neg h]

theorem changes_set_of_notMem {numbers : List Nat} (h : number ∉ numbers) :
    (a.set number devEui stage row).changes numbers = a.changes numbers := by
  refine List.filterMap_congr fun k hk => ?_
  have hOther : k ≠ number := by
    rintro rfl
    exact h hk
  rw [tasks_set_of_ne hOther]

/-- A task that makes no change on its way leaves the changes as they are. -/
theorem changes_set_of_made? (ht : a.tasks[number]? = some t)
    (hMade : { t with stage }.made? = t.made?) (numbers : List Nat) :
    (a.set number devEui stage row).changes numbers = a.changes numbers := by
  refine List.filterMap_congr fun k _ => ?_
  by_cases hk : k = number
  · subst hk
    rw [tasks_set_self ht, ht]
    exact hMade
  · rw [tasks_set_of_ne hk]

theorem changes_concat (a : Accesses) (numbers : List Nat) (ht : a.tasks[number]? = some t) :
    a.changes (numbers ++ [number]) = a.changes numbers ++ t.made?.toList := by
  unfold changes
  rw [List.filterMap_append]
  congr 1
  cases hMade : t.made? <;> simp [ht, hMade]

end Accesses

/-! ## One row -/

/-- How a task stands to the order in which the lock of its row was taken.  The row is known by what it is
after some of the tasks. -/
def Stage.Fits (after : List Nat → Device) (order : List Nat) (number : Nat) : Stage → Prop
  | .start | .waiting => number ∉ order
  | .locked => ∃ before, order = before ++ [number]
  | .copied d | .resumed d | .complete d =>
    (∃ before, order = before ++ [number]) ∧ d = after order
  | .finished (some d) => ∃ before later, order = before ++ number :: later ∧
    d = after (before ++ [number])
  | .finished none => False
  | .dropped => True

/-- What becomes of a row by the changes of some tasks. -/
def Accesses.rowAfter (a : Accesses) (d : Device) (numbers : List Nat) : Device :=
  d.applyAll (a.changes numbers)

/-- Whether a row and its tasks are as if those that are complete had come one after the other, in the
order in which the lock was taken. -/
structure Serial (a : Accesses) (devEui : Eui64) (d : Device) (order : List Nat)
    (holder : Option Nat) : Prop where
  nodup : order.Nodup
  members : ∀ n ∈ order, ∃ t, a.tasks[n]? = some t ∧ t.devEui = devEui
  row : a.rows.get? devEui = some ⟨a.rowAfter d order, holder⟩
  holds : ∀ (n : Nat) (t : Access), a.tasks[n]? = some t → t.devEui = devEui →
    (t.stage.holdsLock = true ↔ holder = some n)
  fits : ∀ (n : Nat) (t : Access), a.tasks[n]? = some t → t.devEui = devEui →
    t.stage.Fits (a.rowAfter d) order n

theorem Stage.Fits.congr {after after' : List Nat → Device} {order : List Nat} {number : Nat}
    {stage : Stage} (h : stage.Fits after order number)
    (hSame : ∀ numbers, numbers ⊆ order → after' numbers = after numbers) :
    stage.Fits after' order number := by
  cases stage with
  | copied d | resumed d | complete d => exact ⟨h.1, by rw [hSame order (List.Subset.refl _), h.2]⟩
  | finished result =>
    cases result with
    | none => exact h.elim
    | some d =>
      obtain ⟨before, later, rfl, hd⟩ := h
      refine ⟨before, later, rfl, ?_⟩
      rw [hSame _ (by simp), hd]
  | _ => exact h

/-- A task that does not hold the lock stays in its place when another one takes it. -/
theorem Stage.Fits.concat {after : List Nat → Device} {order : List Nat} {number next : Nat}
    {stage : Stage} (h : stage.Fits after order number) (hFree : stage.holdsLock = false)
    (hOther : number ≠ next) : stage.Fits after (order ++ [next]) number := by
  cases stage with
  | start | waiting =>
    have h : number ∉ order := h
    simpa [Stage.Fits, hOther] using h
  | finished result =>
    cases result with
    | none => exact h.elim
    | some d =>
      obtain ⟨before, later, rfl, hd⟩ := h
      exact ⟨before, later ++ [next], by simp, hd⟩
  | dropped => trivial
  | _ => cases hFree

/-- A task that does not hold the lock only knows of the row up to its own place. -/
theorem Stage.Fits.congr_of_free {after after' : List Nat → Device} {order : List Nat} {number : Nat}
    {stage : Stage} (h : stage.Fits after order number) (hFree : stage.holdsLock = false)
    (hSame : ∀ before later, order = before ++ number :: later →
      after' (before ++ [number]) = after (before ++ [number])) :
    stage.Fits after' order number := by
  cases stage with
  | finished result =>
    cases result with
    | none => exact h.elim
    | some d =>
      obtain ⟨before, later, hOrder, hd⟩ := h
      exact ⟨before, later, hOrder, by rw [hSame before later hOrder, hd]⟩
  | start | waiting | dropped => exact h
  | _ => cases hFree

namespace Serial

variable {a : Accesses} {devEui : Eui64} {d : Device} {order : List Nat} {holder : Option Nat}
  {number : Nat} {t : Access} {stage : Stage}

/-- A task of another row leaves this row alone. -/
theorem apart (h : Serial a devEui d order holder) (ht : a.tasks[number]? = some t)
    (hOther : t.devEui ≠ devEui) (row : Option LockedRow) :
    Serial (a.set number t.devEui stage row) devEui d order holder := by
  -- a task in the order is of this row, so this one is not there
  have hNotMem : number ∉ order := by
    intro hMem
    obtain ⟨t', ht', hSame⟩ := h.members number hMem
    rw [ht] at ht'
    obtain rfl := Option.some.inj ht'
    exact hOther hSame
  have hAfter : ∀ numbers, numbers ⊆ order →
      (a.set number t.devEui stage row).rowAfter d numbers = a.rowAfter d numbers := by
    intro numbers hNumbers
    unfold Accesses.rowAfter
    rw [Accesses.changes_set_of_notMem fun hMem => hNotMem (hNumbers hMem)]
  constructor
  · exact h.nodup
  · exact fun n hn => Accesses.exists_tasks_set (h.members n hn)
  · rw [Accesses.get?_set_of_ne (Ne.symm hOther), h.row, hAfter order (List.Subset.refl _)]
  · intro n t' ht' hId
    rcases Accesses.tasks_set_cases ht ht' with ⟨-, rfl⟩ | ⟨-, ht'⟩
    · exact absurd hId hOther
    · exact h.holds n t' ht' hId
  · intro n t' ht' hId
    rcases Accesses.tasks_set_cases ht ht' with ⟨-, rfl⟩ | ⟨-, ht'⟩
    · exact absurd hId hOther
    · exact (h.fits n t' ht' hId).congr hAfter

/-- A task of the row goes on without a change. -/
theorem restage {holder' : Option Nat} (h : Serial a devEui d order holder)
    (ht : a.tasks[number]? = some t) (hMade : { t with stage }.made? = t.made?)
    (hHolds : stage.holdsLock = true ↔ holder' = some number)
    (hOthers : ∀ k, k ≠ number → (holder' = some k ↔ holder = some k))
    (hFits : stage.Fits (a.rowAfter d) order number) :
    Serial (a.set number devEui stage (some ⟨a.rowAfter d order, holder'⟩)) devEui d order
      holder' := by
  have hAfter : (a.set number devEui stage (some ⟨a.rowAfter d order, holder'⟩)).rowAfter d =
      a.rowAfter d := by
    funext numbers
    unfold Accesses.rowAfter
    rw [Accesses.changes_set_of_made? ht hMade]
  -- no change is made or lost, so the row is the same; only the task itself has to fit anew
  constructor
  · exact h.nodup
  · exact fun n hn => Accesses.exists_tasks_set (h.members n hn)
  · rw [Accesses.get?_set_self, hAfter]
  · intro n t' ht' hId
    rcases Accesses.tasks_set_cases ht ht' with ⟨rfl, rfl⟩ | ⟨hn, ht'⟩
    · exact hHolds
    · rw [hOthers n hn]
      exact h.holds n t' ht' hId
  · intro n t' ht' hId
    rw [hAfter]
    rcases Accesses.tasks_set_cases ht ht' with ⟨rfl, rfl⟩ | ⟨-, ht'⟩
    · exact hFits
    · exact h.fits n t' ht' hId

/-- A task goes on with the lock or without it, as before. -/
theorem goOn (h : Serial a devEui d order holder) (ht : a.tasks[number]? = some t)
    (hId : t.devEui = devEui) (stage : Stage) (hMade : { t with stage }.made? = t.made?)
    (hLock : stage.holdsLock = t.stage.holdsLock) (hFits : stage.Fits (a.rowAfter d) order number) :
    Serial (a.set number devEui stage (some ⟨a.rowAfter d order, holder⟩)) devEui d order holder := by
  refine h.restage ht hMade ?_ (fun k _ => Iff.rfl) hFits
  rw [hLock]
  exact h.holds number t ht hId

/-- A task frees the lock that it has. -/
theorem release (h : Serial a devEui d order holder) (ht : a.tasks[number]? = some t)
    (hId : t.devEui = devEui) (stage : Stage) (hMade : { t with stage }.made? = t.made?)
    (hLock : t.stage.holdsLock = true) (hFree : stage.holdsLock = false)
    (hFits : stage.Fits (a.rowAfter d) order number) :
    Serial (a.set number devEui stage (some ⟨a.rowAfter d order, none⟩)) devEui d order none := by
  have hHolder : holder = some number := (h.holds number t ht hId).mp hLock
  refine h.restage ht hMade ?_ (fun k hk => ?_) hFits
  · simp [hFree]
  · simp [hHolder, Ne.symm hk]

/-- A waiting task takes the lock, and is the last in the order. -/
theorem lock (h : Serial a devEui d order none) (ht : a.tasks[number]? = some t)
    (hId : t.devEui = devEui) (hStage : t.stage = .waiting) :
    Serial (a.set number devEui .locked (some ⟨a.rowAfter d order, some number⟩)) devEui d
      (order ++ [number]) (some number) := by
  have hNotMem : number ∉ order := by
    have hFits := h.fits number t ht hId
    rw [hStage] at hFits
    exact hFits
  -- it has not made its change yet, so that the row stays what it is
  have hAfter : (a.set number devEui .locked
      (some ⟨a.rowAfter d order, some number⟩)).rowAfter d = a.rowAfter d := by
    funext numbers
    unfold Accesses.rowAfter
    rw [Accesses.changes_set_of_made? ht (by simp [Access.made?, hStage])]
  constructor
  · refine List.nodup_append.mpr ⟨h.nodup, by simp, ?_⟩
    rintro n hn k hk rfl
    rw [List.mem_singleton.mp hk] at hn
    exact hNotMem hn
  · intro n hn
    refine Accesses.exists_tasks_set ?_
    rcases List.mem_append.mp hn with hn | hn
    · exact h.members n hn
    · obtain rfl := List.mem_singleton.mp hn
      exact ⟨t, ht, hId⟩
  · rw [Accesses.get?_set_self, hAfter]
    unfold Accesses.rowAfter
    rw [Accesses.changes_concat a order ht]
    simp [Access.made?, hStage]
  · intro n t' ht' hId'
    rcases Accesses.tasks_set_cases ht ht' with ⟨rfl, rfl⟩ | ⟨hn, ht'⟩
    · simp [Stage.holdsLock]
    · rw [h.holds n t' ht' hId']
      simp [Ne.symm hn]
  · intro n t' ht' hId'
    rw [hAfter]
    rcases Accesses.tasks_set_cases ht ht' with ⟨rfl, rfl⟩ | ⟨hn, ht'⟩
    · exact ⟨order, rfl⟩
    · -- nobody has held the lock, so that no other task needs to be the last
      refine (h.fits n t' ht' hId').concat ?_ hn
      rw [Bool.eq_false_iff, ne_eq, h.holds n t' ht' hId']
      simp

theorem notMem_others (h : Serial a devEui d order holder) {others : List Nat}
    (hLast : order = others ++ [number]) : number ∉ others := by
  have hNodup := h.nodup
  rw [hLast, List.nodup_append] at hNodup
  exact fun hMem => hNodup.2.2 number hMem number (by simp) rfl

/-- The last task of the order is not among those up to another one. -/
theorem notMem_of_last (h : Serial a devEui d order holder) {others before later : List Nat} {n : Nat}
    (hLast : order = others ++ [number]) (hOrder : order = before ++ n :: later)
    (hOther : n ≠ number) : number ∉ before ++ [n] := by
  have hNotMem := h.notMem_others hLast
  have hSame : others ++ [number] = before ++ [n] ++ later := by
    rw [← hLast, hOrder, List.append_cons]
  rcases List.append_eq_append_iff.mp hSame with ⟨rest, hBefore, hRest⟩ | ⟨rest, hOthers, -⟩
  · -- nothing but the last task could be left beyond the others
    cases rest with
    | nil =>
      rw [hBefore, List.append_nil]
      exact hNotMem
    | cons x rest =>
      obtain ⟨rfl, hNil⟩ := List.cons.inj hRest
      obtain ⟨rfl, -⟩ := List.append_eq_nil_iff.mp hNil.symm
      have hTasks := (List.append_inj' hBefore rfl).2
      exact absurd (List.cons.inj hTasks).1 hOther
  · intro hMem
    rw [hOthers] at hNotMem
    exact hNotMem (List.mem_append_left rest hMem)

/-- The task that has the lock writes the row. -/
theorem write {change : Device → Device} {c : Device} (h : Serial a devEui d order holder)
    (ht : a.tasks[number]? = some t) (hId : t.devEui = devEui) (hStage : t.stage = .resumed c)
    (hChange : t.change = some change) :
    Serial (a.set number devEui (.complete (change c)) (some ⟨change c, holder⟩)) devEui d order
      holder := by
  have hFits := h.fits number t ht hId
  rw [hStage] at hFits
  obtain ⟨⟨others, hLast⟩, hc⟩ := hFits
  have hHolder : holder = some number := (h.holds number t ht hId).mp (by rw [hStage]; rfl)
  have hNotMem := h.notMem_others hLast
  -- the change comes after those made before, for no other task was at the row since
  have hRow : (a.set number devEui (.complete (change c)) (some ⟨change c, holder⟩)).rowAfter d order =
      change c := by
    have hBefore : a.changes order = a.changes others := by
      rw [hLast, Accesses.changes_concat a others ht]
      simp [Access.made?, hStage]
    unfold Accesses.rowAfter at hc ⊢
    rw [hBefore] at hc
    rw [hLast, Accesses.changes_concat _ others (Accesses.tasks_set_self ht),
      Accesses.changes_set_of_notMem hNotMem, hc]
    simp [Access.made?, hChange, Device.applyAll]
  constructor
  · exact h.nodup
  · exact fun n hn => Accesses.exists_tasks_set (h.members n hn)
  · rw [Accesses.get?_set_self, hRow]
  · intro n t' ht' hId'
    rcases Accesses.tasks_set_cases ht ht' with ⟨rfl, rfl⟩ | ⟨-, ht'⟩
    · simp [Stage.holdsLock, hHolder]
    · exact h.holds n t' ht' hId'
  · intro n t' ht' hId'
    rcases Accesses.tasks_set_cases ht ht' with ⟨rfl, rfl⟩ | ⟨hn, ht'⟩
    · exact ⟨⟨others, hLast⟩, hRow.symm⟩
    · -- the other tasks know of the row before this change only
      refine (h.fits n t' ht' hId').congr_of_free ?_ fun before later hOrder => ?_
      · rw [Bool.eq_false_iff, ne_eq, h.holds n t' ht' hId', hHolder]
        simp [Ne.symm hn]
      · unfold Accesses.rowAfter
        rw [Accesses.changes_set_of_notMem (h.notMem_of_last hLast hOrder hn)]

/-- What one move keeps. -/
theorem step (h : Serial a devEui d order holder) (m : Move) :
    ∃ holder', Serial (a.turn m) devEui d (order ++ (a.taker? devEui m).toList) holder' := by
  rcases Accesses.turn_cases devEui a m with ⟨hSame, hTaker⟩ |
    ⟨t, stage, row, ht, hAdvance, hTurn, hTaker⟩
  · rw [hSame, hTaker]
    exact ⟨holder, by simpa using h⟩
  rw [hTurn, hTaker]
  by_cases hId : t.devEui = devEui
  swap
  · exact ⟨holder, by simpa [hId] using h.apart ht hId row⟩
  have hFits := h.fits m.number t ht hId
  rw [hId, h.row] at hAdvance
  rw [hId]
  -- one case for each way to go on: only taking the lock adds to the order
  cases hAdvance with
  | find _ hStage =>
    rw [hStage] at hFits
    have hNext := h.goOn ht hId .waiting (by simp [Access.made?, hStage]) (by rw [hStage]; rfl) hFits
    exact ⟨holder, by simpa using hNext⟩
  | lock _ hStage => exact ⟨some m.number, by simpa using h.lock ht hId hStage⟩
  | read _ hStage hChange =>
    rw [hStage] at hFits
    have hNext := h.goOn ht hId (.complete (a.rowAfter d order))
      (by simp [Access.made?, hStage, hChange]) (by rw [hStage]; rfl) ⟨hFits, rfl⟩
    exact ⟨holder, by simpa using hNext⟩
  | copy _ hStage =>
    rw [hStage] at hFits
    have hNext := h.goOn ht hId (.copied (a.rowAfter d order))
      (by simp [Access.made?, hStage]) (by rw [hStage]; rfl) ⟨hFits, rfl⟩
    exact ⟨holder, by simpa using hNext⟩
  | @resume _ c hStage =>
    rw [hStage] at hFits
    have hNext := h.goOn ht hId (.resumed c) (by simp [Access.made?, hStage]) (by rw [hStage]; rfl) hFits
    exact ⟨holder, by simpa using hNext⟩
  | write _ hStage hChange => exact ⟨holder, by simpa using h.write ht hId hStage hChange⟩
  | @unlock _ c hStage =>
    rw [hStage] at hFits
    obtain ⟨⟨before, hLast⟩, hc⟩ := hFits
    have hNext := h.release ht hId (.finished (some c)) (by simp [Access.made?, hStage])
      (by rw [hStage]; rfl) rfl ⟨before, [], hLast, by rw [← hLast, hc]⟩
    exact ⟨none, by simpa using hNext⟩
  | leave _ hStage =>
    have hNext : Serial (a.set m.number devEui .dropped (some ⟨a.rowAfter d order, holder⟩)) devEui d
        order holder := by
      rcases hStage with hStage | hStage
      · exact h.goOn ht hId .dropped (by simp [Access.made?, hStage]) (by rw [hStage]; rfl) trivial
      · exact h.goOn ht hId .dropped (by simp [Access.made?, hStage]) (by rw [hStage]; rfl) trivial
    exact ⟨holder, by simpa using hNext⟩
  | free _ hStage =>
    have hNext : Serial (a.set m.number devEui .dropped (some ⟨a.rowAfter d order, none⟩)) devEui d
        order none := by
      rcases hStage with hStage | ⟨c, hStage⟩
      · exact h.release ht hId .dropped (by simp [Access.made?, hStage]) (by rw [hStage]; rfl) rfl trivial
      · exact h.release ht hId .dropped (by simp [Access.made?, hStage]) (by rw [hStage]; rfl) rfl trivial
    exact ⟨none, by simpa using hNext⟩

/-- What a run keeps. -/
theorem play (h : Serial a devEui d order holder) (moves : List Move) :
    ∃ holder', Serial (a.play moves) devEui d (order ++ a.lockOrder devEui moves) holder' := by
  induction moves generalizing a order holder with
  | nil =>
    rw [Accesses.lockOrder, List.append_nil]
    exact ⟨holder, h⟩
  | cons m moves ih =>
    obtain ⟨holder', hNext⟩ := h.step m
    rw [Accesses.play_cons, Accesses.lockOrder, ← List.append_assoc]
    exact ih hNext

theorem ofStore {s : Store} (requests : List (Eui64 × Option (Device → Device)))
    (h : s.getDevice devEui = some d) : Serial (.ofStore s requests) devEui d [] none := by
  constructor
  · exact List.nodup_nil
  · exact fun n hn => absurd hn List.not_mem_nil
  · have hRow := Table.get?_map s.devices.rows (fun d => (⟨d, none⟩ : LockedRow)) devEui
    have h : s.devices.get? devEui = some d := h
    rw [h] at hRow
    exact hRow
  · intro n t ht _
    rw [Accesses.stage_ofStore ht]
    simp [Stage.holdsLock]
  · intro n t ht _
    rw [Accesses.stage_ofStore ht]
    exact List.not_mem_nil

/-- A task that is done returns what the tasks before it have made of the row, with its own change. -/
theorem result_eq (h : Serial a devEui d order holder) (ht : a.tasks[number]? = some t)
    (hId : t.devEui = devEui) {result : Option Device} (hResult : t.stage.result? = some result) :
    ∃ before later, order = before ++ number :: later ∧
      result = some (t.change.getD id (d.applyAll (a.changes before))) := by
  have hPlace : ∃ before later c, order = before ++ number :: later ∧ result = some c ∧
      c = a.rowAfter d (before ++ [number]) ∧ t.made? = t.change := by
    have hFits := h.fits number t ht hId
    cases hStage : t.stage with
    | complete c =>
      rw [hStage] at hFits hResult
      obtain ⟨⟨before, hLast⟩, hc⟩ := hFits
      refine ⟨before, [], c, hLast, (Option.some.inj hResult).symm, ?_, ?_⟩
      · rw [← hLast, hc]
      · simp [Access.made?, hStage]
    | finished found =>
      rw [hStage] at hFits hResult
      cases found with
      | none => exact hFits.elim
      | some c =>
        obtain ⟨before, later, hOrder, hc⟩ := hFits
        refine ⟨before, later, c, hOrder, (Option.some.inj hResult).symm, hc, ?_⟩
        simp [Access.made?, hStage]
    | _ =>
      rw [hStage] at hResult
      cases hResult
  obtain ⟨before, later, c, hOrder, hResult, hc, hMade⟩ := hPlace
  refine ⟨before, later, hOrder, ?_⟩
  -- its own change is the last of those up to its place
  rw [hResult, hc, Accesses.rowAfter, Accesses.changes_concat a before ht, hMade]
  cases t.change <;> simp [Device.applyAll]

end Serial

/-- Whether a row does not exist, so that its tasks find none. -/
structure Missing (a : Accesses) (devEui : Eui64) : Prop where
  row : a.rows.get? devEui = none
  tasks : ∀ (n : Nat) (t : Access), a.tasks[n]? = some t → t.devEui = devEui →
    t.stage = .start ∨ t.stage = .finished none ∨ t.stage = .dropped

namespace Missing

variable {a : Accesses} {devEui : Eui64}

theorem ofStore {s : Store} (requests : List (Eui64 × Option (Device → Device)))
    (h : s.getDevice devEui = none) : Missing (.ofStore s requests) devEui := by
  constructor
  · have hRow := Table.get?_map s.devices.rows (fun d => (⟨d, none⟩ : LockedRow)) devEui
    have h : s.devices.get? devEui = none := h
    rw [h] at hRow
    exact hRow
  · intro n t ht _
    exact Or.inl (Accesses.stage_ofStore ht)

theorem step (h : Missing a devEui) (m : Move) :
    Missing (a.turn m) devEui ∧ a.taker? devEui m = none := by
  rcases Accesses.turn_cases devEui a m with ⟨hSame, hTaker⟩ |
    ⟨t, stage, row, ht, hAdvance, hTurn, hTaker⟩
  · rw [hSame]
    exact ⟨h, hTaker⟩
  rw [hTurn, hTaker]
  by_cases hId : t.devEui = devEui
  · -- without a row a task can only find none, or be dropped
    have hStage := h.tasks m.number t ht hId
    have hEnd : (stage = .finished none ∨ stage = .dropped) ∧ row = none := by
      rw [hId, h.row] at hAdvance
      cases hAdvance with
      | miss _ => exact ⟨Or.inl rfl, rfl⟩
      | resume _ hCopied =>
        rw [hCopied] at hStage
        simp at hStage
      | leave _ _ => exact ⟨Or.inr rfl, rfl⟩
    obtain ⟨hEnd, rfl⟩ := hEnd
    -- the task that moved has found none or is dropped, the others are where they were
    refine ⟨⟨h.row, fun n t' ht' hId' => ?_⟩, ?_⟩
    · rcases Accesses.tasks_set_cases ht ht' with ⟨-, rfl⟩ | ⟨-, ht'⟩
      · exact Or.inr hEnd
      · exact h.tasks n t' ht' hId'
    · rcases hEnd with rfl | rfl <;> simp
  · refine ⟨⟨?_, fun n t' ht' hId' => ?_⟩, by simp [hId]⟩
    · rw [Accesses.get?_set_of_ne (Ne.symm hId), h.row]
    · rcases Accesses.tasks_set_cases ht ht' with ⟨-, rfl⟩ | ⟨-, ht'⟩
      · exact absurd hId' hId
      · exact h.tasks n t' ht' hId'

theorem play (h : Missing a devEui) (moves : List Move) :
    Missing (a.play moves) devEui ∧ a.lockOrder devEui moves = [] := by
  induction moves generalizing a with
  | nil => exact ⟨h, rfl⟩
  | cons m moves ih =>
    obtain ⟨hNext, hTaker⟩ := h.step m
    obtain ⟨hLater, hOrder⟩ := ih hNext
    rw [Accesses.lockOrder, hTaker, hOrder]
    exact ⟨hLater, rfl⟩

end Missing

/-! ## All rows -/

namespace Accesses

/-- What was asked for. -/
def requests (a : Accesses) : List (Eui64 × Option (Device → Device)) :=
  a.tasks.map fun t => (t.devEui, t.change)

theorem requests_ofStore (s : Store) (requests : List (Eui64 × Option (Device → Device))) :
    (ofStore s requests).requests = requests := by
  rw [Accesses.requests, ofStore, List.map_map]
  exact List.map_id requests

theorem requests_turn (a : Accesses) (m : Move) : (a.turn m).requests = a.requests := by
  rcases turn_cases (.zero .eui64) a m with ⟨hSame, -⟩ | ⟨t, stage, row, -, -, hTurn, -⟩
  · rw [hSame]
  · rw [hTurn]
    refine List.ext_getElem? fun k => ?_
    simp only [requests, set, List.getElem?_map, List.getElem?_modify]
    cases a.tasks[k]? with
    | none => rfl
    | some t => by_cases hk : m.number = k <;> simp [hk]

theorem requests_play (a : Accesses) (moves : List Move) : (a.play moves).requests = a.requests := by
  induction moves generalizing a with
  | nil => rfl
  | cons m moves ih => rw [play_cons, ih, requests_turn]

theorem get?_devices (a : Accesses) (devEui : Eui64) :
    a.devices.get? devEui = (a.rows.get? devEui).map LockedRow.device :=
  Table.get?_map a.rows.rows LockedRow.device devEui

/-- Reads, and updates by mutations, as they are asked for. -/
def byMutations (accesses : List (Eui64 × Option DeviceMutation)) :
    List (Eui64 × Option (Device → Device)) :=
  accesses.map fun r => (r.1, r.2.map fun m d => d.apply m)

/-- The mutations that some tasks have made. -/
def mutations (a : Accesses) (accesses : List (Eui64 × Option DeviceMutation))
    (numbers : List Nat) : List DeviceMutation :=
  numbers.filterMap fun n =>
    if (a.tasks[n]?.bind Access.made?).isSome then accesses[n]?.bind Prod.snd else none

theorem changes_eq_mutations {a : Accesses} {accesses : List (Eui64 × Option DeviceMutation)}
    (h : a.requests = byMutations accesses) (numbers : List Nat) :
    a.changes numbers = (a.mutations accesses numbers).map fun m d => d.apply m := by
  unfold changes mutations
  rw [List.map_filterMap]
  refine List.filterMap_congr fun n _ => ?_
  have hRequest := congrArg (·[n]?) h
  simp only [requests, byMutations, List.getElem?_map] at hRequest
  cases hTask : a.tasks[n]? with
  | none => rfl
  | some t =>
    rw [hTask] at hRequest
    obtain ⟨r, hr, hSame⟩ := Option.map_eq_some_iff.mp hRequest.symm
    have hChange : t.change = r.2.map fun m d => d.apply m := (congrArg Prod.snd hSame).symm
    -- a task that has not got so far has made no change yet
    have hMade : t.made? = none ∨ t.made? = t.change := by
      unfold Access.made?
      split <;> simp
    rw [hr, Option.bind_some, Option.bind_some]
    rcases hMade with hMade | hMade
    · simp [hMade]
    · rw [hMade, hChange]
      cases r.2 <;> rfl

/-- Every row ends as if the completed updates had been made one after the other, in lock order. -/
theorem devices_play (s : Store) (requests : List (Eui64 × Option (Device → Device)))
    (moves : List Move) (devEui : Eui64) :
    ((ofStore s requests).lockOrder devEui moves).Nodup ∧
      ((ofStore s requests).play moves).devices.get? devEui = (s.getDevice devEui).map fun d =>
        d.applyAll
          (((ofStore s requests).play moves).changes ((ofStore s requests).lockOrder devEui moves)) := by
  rw [get?_devices]
  cases hDevice : s.getDevice devEui with
  | none =>
    obtain ⟨hMissing, hOrder⟩ := (Missing.ofStore requests hDevice).play moves
    rw [hMissing.row, hOrder]
    exact ⟨List.nodup_nil, rfl⟩
  | some d =>
    obtain ⟨holder, hSerial⟩ := (Serial.ofStore requests hDevice).play moves
    rw [hSerial.row]
    exact ⟨hSerial.nodup, rfl⟩

/-- Every task that is done returns the row as it was at its place in lock order, or has found none. -/
theorem result_play {s : Store} {requests : List (Eui64 × Option (Device → Device))}
    {moves : List Move} {n : Nat} {t : Access} {result : Option Device}
    (ht : ((ofStore s requests).play moves).tasks[n]? = some t)
    (hResult : t.stage.result? = some result) :
    (s.getDevice t.devEui = none ∧ result = none) ∨
      ∃ d before later, s.getDevice t.devEui = some d ∧
        (ofStore s requests).lockOrder t.devEui moves = before ++ n :: later ∧
        result = some ((t.change.getD id)
          (d.applyAll (((ofStore s requests).play moves).changes before))) := by
  cases hDevice : s.getDevice t.devEui with
  | none =>
    obtain ⟨hMissing, -⟩ := (Missing.ofStore requests hDevice).play moves
    refine Or.inl ⟨rfl, ?_⟩
    -- of the stages that such a task can have, only one has a result
    rcases hMissing.tasks n t ht rfl with hStage | hStage | hStage
    · rw [hStage] at hResult
      cases hResult
    · rw [hStage] at hResult
      exact (Option.some.inj hResult).symm
    · rw [hStage] at hResult
      cases hResult
  | some d =>
    obtain ⟨holder, hSerial⟩ := (Serial.ofStore requests hDevice).play moves
    obtain ⟨before, later, hOrder, hValue⟩ := hSerial.result_eq ht rfl hResult
    exact Or.inr ⟨d, before, later, rfl, hOrder, hValue⟩

/-- Every row ends as if the completed updates had been made one after the other in the order of the
row's lock, and every task that is done returns the row as it was at its place in this order. -/
theorem serializable (s : Store) (requests : List (Eui64 × Option (Device → Device)))
    (moves : List Move) :
    let start := ofStore s requests
    let a := start.play moves
    a.requests = requests ∧
    (∀ devEui, (start.lockOrder devEui moves).Nodup ∧
      a.devices.get? devEui = (s.getDevice devEui).map fun d =>
        d.applyAll (a.changes (start.lockOrder devEui moves))) ∧
    (∀ (n : Nat) (t : Access) result, a.tasks[n]? = some t → t.stage.result? = some result →
      (s.getDevice t.devEui = none ∧ result = none) ∨
      ∃ d before later, s.getDevice t.devEui = some d ∧
        start.lockOrder t.devEui moves = before ++ n :: later ∧
        result = some ((t.change.getD id) (d.applyAll (a.changes before)))) ∧
    ∀ accesses, requests = byMutations accesses → ∀ devEui d d', s.getDevice devEui = some d →
      a.devices.get? devEui = some d' →
      d.Combines d' (a.mutations accesses (start.lockOrder devEui moves)) := by
  intro start a
  have hRequests : a.requests = requests :=
    (requests_play start moves).trans (requests_ofStore s requests)
  refine ⟨hRequests, devices_play s requests moves, fun n t result => result_play, ?_⟩
  rintro accesses rfl devEui d d' hDevice hAfter
  -- the row is known already, and its changes are the mutations that were asked for
  rw [(devices_play s _ moves devEui).2, hDevice] at hAfter
  obtain rfl := Option.some.inj hAfter
  show d.Combines (d.applyAll _) _
  rw [changes_eq_mutations hRequests]
  exact d.combines_applyAll _

namespace Sample

def device : Device := ⟨.zero .eui64, 1, "meter", none, none, none, none, none, none⟩

/-- Two times at which the device was heard from, and a status. -/
def accesses : List (Eui64 × Option DeviceMutation) :=
  [(device.devEui, some (.markSeen ⟨5, 0⟩)), (device.devEui, some (.markSeen ⟨3, 0⟩)),
    (device.devEui, some (.setStatus 80 5))]

/-- All three wait for the lock.  The status has it first and is dropped, and then the later time comes
before the earlier one. -/
def moves : List Move :=
  [.step 2, .step 0, .step 1, .step 2, .step 2, .step 0, .drop 2] ++ List.replicate 5 (.step 0) ++
    List.replicate 5 (.step 1)

/-- The start of the accesses. -/
def start : Accesses := .ofStore (Store.empty.insertDevice device) (byMutations accesses)

end Sample

theorem serializable_sample :
    ∃ d', (Sample.start.play Sample.moves).devices.get? Sample.device.devEui = some d' ∧
      Sample.device.Combines d' [.markSeen ⟨5, 0⟩, .markSeen ⟨3, 0⟩] := by
  obtain ⟨-, hRows, -, hCombines⟩ := serializable (Store.empty.insertDevice Sample.device)
    (byMutations Sample.accesses) Sample.moves
  have hDevice : (Store.empty.insertDevice Sample.device).getDevice Sample.device.devEui =
      some Sample.device := rfl
  have hRow := (hRows Sample.device.devEui).2
  rw [hDevice] at hRow
  exact ⟨_, hRow, hCombines Sample.accesses rfl _ _ _ hDevice hRow⟩

end Accesses

end Store

end Lorawan
