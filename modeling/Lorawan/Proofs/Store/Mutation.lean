import Lorawan.Proofs.Store.Lookup
import Mathlib.Data.List.Induction

/-!
# Mutations of devices

One mutation changes one part of a record and keeps the rest.  So many of them, one after the other, come
to the latest time at which the device was heard from, and leave every other part as the last mutation of
this part has (`Device.combines_applyAll`): none is lost, and none undoes one of another part.
-/

namespace Lorawan

/-! ## One mutation -/

namespace Device

variable (d : Device) (mutation : DeviceMutation)

/-- Nothing but the time changes when a device was heard from. -/
theorem markSeen_eq (time : Time.Instant) :
    d.markSeen time = { d with lastSeenAt := (d.markSeen time).lastSeenAt } := by
  unfold markSeen
  split
  · split <;> rfl
  · rfl

@[simp] theorem apply_devEui : (d.apply mutation).devEui = d.devEui := by
  cases mutation with
  | markSeen time => rw [apply, markSeen_eq]
  | _ => rfl

@[simp] theorem apply_applicationId : (d.apply mutation).applicationId = d.applicationId := by
  cases mutation with
  | markSeen time => rw [apply, markSeen_eq]
  | _ => rfl

@[simp] theorem apply_markSeen_name (time : Time.Instant) :
    (d.apply (.markSeen time)).name = d.name := by
  rw [apply, markSeen_eq]

end Device

/-! ## Many mutations -/

namespace DeviceMutation

/-- When the device was heard from. -/
def seen? : DeviceMutation → Option Time.Instant
  | .markSeen time => some time
  | _ => none

def status? : DeviceMutation → Option (Int32 × Int32)
  | .setStatus battery margin => some (battery, margin)
  | _ => none

def location? : DeviceMutation → Option Location
  | .setLocation location => some location
  | _ => none

def name? : DeviceMutation → Option String
  | .rename name => some name
  | _ => none

/-- What the last mutation of a part has set it to. -/
def last? {α : Type} (part : DeviceMutation → Option α) (ms : List DeviceMutation) : Option α :=
  (ms.filterMap part).getLast?

/-- A mutation takes the place of those of its part that came before. -/
theorem last?_concat {α : Type} (part : DeviceMutation → Option α) (ms : List DeviceMutation)
    (m : DeviceMutation) : last? part (ms ++ [m]) = (part m).or (last? part ms) := by
  unfold last?
  rw [List.filterMap_append, List.getLast?_append]
  cases hPart : part m <;> simp [hPart]

end DeviceMutation

/-- Whether a time is the latest of some times, if there are any. -/
def IsLatest (latest : Option Time.Instant) (times : List Time.Instant) : Prop :=
  (∀ time, latest = some time → time ∈ times) ∧
    ∀ time ∈ times, ∃ time', latest = some time' ∧ time ≤ time'

/-- The record after some changes, one after the other. -/
def Device.applyAll (d : Device) (changes : List (Device → Device)) : Device :=
  changes.foldl (fun d change => change d) d

namespace Device

open DeviceMutation

/-- Whether one record comes from the other by some mutations none of which was lost: the device was last
seen at the latest of all times, and every other part is as the last mutation of this part has left it. -/
structure Combines (d d' : Device) (ms : List DeviceMutation) : Prop where
  devEui : d'.devEui = d.devEui
  applicationId : d'.applicationId = d.applicationId
  lastSeenAt : IsLatest d'.lastSeenAt (d.lastSeenAt.toList ++ ms.filterMap seen?)
  status : (d'.battery, d'.margin) =
    ((last? status? ms).map fun (battery, margin) =>
      (some battery, some margin)).getD (d.battery, d.margin)
  location : (d'.latitude, d'.longitude, d'.altitude) =
    ((last? location? ms).map fun l =>
      (some l.latitude, some l.longitude, some l.altitude)).getD (d.latitude, d.longitude, d.altitude)
  name : d'.name = (last? name? ms).getD d.name

theorem isLatest_markSeen {d : Device} {times : List Time.Instant} (h : IsLatest d.lastSeenAt times)
    (time : Time.Instant) : IsLatest (d.markSeen time).lastSeenAt (times ++ [time]) := by
  obtain ⟨hMember, hUpper⟩ := h
  -- either the record is no earlier, or the time takes its place
  have hCases : (∃ current, d.lastSeenAt = some current ∧ time ≤ current ∧
        (d.markSeen time).lastSeenAt = some current) ∨
      ((∀ current, d.lastSeenAt = some current → current ≤ time) ∧
        (d.markSeen time).lastSeenAt = some time) := by
    unfold markSeen
    cases hSeen : d.lastSeenAt with
    | none => exact Or.inr ⟨fun _ hNone => (nomatch hNone), rfl⟩
    | some current =>
      by_cases hLate : time ≤ current
      · exact Or.inl ⟨current, rfl, hLate, by simp [hLate, hSeen]⟩
      · refine Or.inr ⟨fun c hc => ?_, by simp [hLate]⟩
        obtain rfl := Option.some.inj hc
        exact (Time.Instant.le_total time current).resolve_left hLate
  rcases hCases with ⟨current, hSeen, hLate, hNew⟩ | ⟨hEarlier, hNew⟩
  · rw [hNew, ← hSeen]
    refine ⟨fun t ht => List.mem_append_left _ (hMember t ht), fun t ht => ?_⟩
    rcases List.mem_append.mp ht with ht | ht
    · exact hUpper t ht
    · obtain rfl := List.mem_singleton.mp ht
      exact ⟨current, hSeen, hLate⟩
  · rw [hNew]
    refine ⟨fun t ht => ?_, fun t ht => ⟨time, rfl, ?_⟩⟩
    · obtain rfl := Option.some.inj ht
      simp
    · rcases List.mem_append.mp ht with ht | ht
      · obtain ⟨t', ht', hle⟩ := hUpper t ht
        exact Time.Instant.le_trans hle (hEarlier t' ht')
      · obtain rfl := List.mem_singleton.mp ht
        exact Time.Instant.le_refl t

/-- A mutation adds to its own part, and leaves the others alone. -/
theorem Combines.apply {d d' : Device} {ms : List DeviceMutation} (h : d.Combines d' ms)
    (m : DeviceMutation) : d.Combines (d'.apply m) (ms ++ [m]) := by
  -- a mutation sets one part of the row; of every other part the last value stays what it was
  have hLast : ∀ {α : Type} (part : DeviceMutation → Option α), part m = none →
      last? part (ms ++ [m]) = last? part ms := by
    intro α part hPart
    rw [last?_concat, hPart, Option.none_or]
  have hTimes : seen? m = none → (ms ++ [m]).filterMap seen? = ms.filterMap seen? := by
    intro hNone
    rw [List.filterMap_append, List.filterMap_cons_none hNone, List.filterMap_nil, List.append_nil]
  cases m with
  | markSeen time =>
    have hSeen := isLatest_markSeen h.lastSeenAt time
    rw [List.append_assoc] at hSeen
    rw [Device.apply, markSeen_eq]
    refine ⟨h.devEui, h.applicationId, ?_, ?_, ?_, ?_⟩
    · rw [List.filterMap_append]
      exact hSeen
    · rw [hLast _ rfl]
      exact h.status
    · rw [hLast _ rfl]
      exact h.location
    · rw [hLast _ rfl]
      exact h.name
  | setStatus battery margin =>
    refine ⟨h.devEui, h.applicationId, ?_, ?_, ?_, ?_⟩
    · rw [hTimes rfl]
      exact h.lastSeenAt
    · rw [last?_concat]
      rfl
    · rw [hLast _ rfl]
      exact h.location
    · rw [hLast _ rfl]
      exact h.name
  | setLocation location =>
    refine ⟨h.devEui, h.applicationId, ?_, ?_, ?_, ?_⟩
    · rw [hTimes rfl]
      exact h.lastSeenAt
    · rw [hLast _ rfl]
      exact h.status
    · rw [last?_concat]
      rfl
    · rw [hLast _ rfl]
      exact h.name
  | rename name =>
    refine ⟨h.devEui, h.applicationId, ?_, ?_, ?_, ?_⟩
    · rw [hTimes rfl]
      exact h.lastSeenAt
    · rw [hLast _ rfl]
      exact h.status
    · rw [hLast _ rfl]
      exact h.location
    · rw [last?_concat]
      rfl

theorem combines_applyAll (d : Device) (ms : List DeviceMutation) :
    d.Combines (d.applyAll (ms.map fun m d => d.apply m)) ms := by
  induction ms using List.reverseRecOn with
  | nil =>
    refine ⟨rfl, rfl, ⟨fun t ht => ?_, fun t ht => ⟨t, ?_, Time.Instant.le_refl t⟩⟩, rfl, rfl, rfl⟩
    · simpa [applyAll] using ht
    · simpa [applyAll] using ht
  | append_singleton ms m ih =>
    have hLast : d.applyAll ((ms ++ [m]).map fun m d => d.apply m) =
        (d.applyAll (ms.map fun m d => d.apply m)).apply m := by
      simp [applyAll]
    rw [hLast]
    exact ih.apply m

end Device

end Lorawan
