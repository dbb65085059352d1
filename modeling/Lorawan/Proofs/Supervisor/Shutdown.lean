import Lorawan.Proofs.Supervisor.Outcome

/-!
# How a run is shut down

The life of a run in which nobody but the run itself cancels the token (`Run.shuts_down_in_order`).

* **The token** is cancelled by the join of the first failed process and by nothing else
  (`Run.cancels_iff`).  So a process that waits for the token is released by that join, and never by a
  process that ends well (`Run.exists_joinsFirstFailure`).
* **The closers** are called when the last process has ended, and not before.  Once a call has handed back
  what is to run as a task, neither its end nor that it never ends makes a difference.
* **Time** stands still from the end of the last process until the closers are called.  From then on no more
  of it goes by than the timeout, or than the calls take if that is more (`Run.stays_in_time`).  The run relies
  on calls that hand over in time (`HandsOver`), as those of asynchronous closers do.
* **The result** is made of the ends of the processes alone (`Run.supervisor_eq_joinAll`).  There is one
  unless a call panics or never comes back.
-/

namespace Lorawan.Supervisor

namespace Run

variable {processes timeoutMs : Nat} {closers : List Call} {moves before after : List Move} {m : Move}
  {r r' r₀ : Run}

/-! ## The token -/

/-- When the calls of the closers began. -/
def since? (r : Run) : Option Nat :=
  match r.stage with
  | .calling since .. | .closing since _ => some since
  | .supervising | .returned | .unwound => none

theorem since?_callFrom (r : Run) (since number : Nat) (waiting : List Nat) :
    since? { r with stage := r.callFrom since number waiting } = some since := by
  rcases r.callFrom_cases since number waiting with ⟨-, hStage⟩ | ⟨-, hStage⟩ <;> simp only [since?, hStage]

/-- While closers are called or waited for, no more time goes by than the timeout or the calls. -/
theorem now_le_of_since? {since : Nat} (hTimely : Timely r.closers r.timeoutMs r.now r.stage)
    (hReturn : ∀ c ∈ r.closers, c.returns) (hSince : r.since? = some since) :
    r.now ≤ since + max r.timeoutMs (callingMs r.closers) := by
  unfold since? at hSince
  split at hSince
  -- during a call: the calls that are over, and what there was of this one
  · next hStage =>
    cases hSince
    rw [hStage] at hTimely
    obtain ⟨call, hCall, -, rfl, -, hNow⟩ := hTimely
    obtain ⟨ms, rfl⟩ := Call.returns_iff.mp (hReturn call (List.mem_of_getElem? hCall))
    have hAll := callingMs_take_add_le hCall
    calc r.now
        ≤ since + callingMs (r.closers.take _) + ms := hNow ms rfl
      _ ≤ since + callingMs r.closers := by
        rw [Nat.add_assoc]
        exact Nat.add_le_add_left hAll since
      _ ≤ since + max r.timeoutMs (callingMs r.closers) := Nat.add_le_add_left (Nat.le_max_right _ _) since
  · next hStage =>
    cases hSince
    rw [hStage] at hTimely
    exact hTimely.2.2
  all_goals cases hSince

/-- What holds from the moment on at which no process runs any more. -/
structure InTime (r₀ r : Run) : Prop where
  closers : r.closers = r₀.closers
  timeout : r.timeoutMs = r₀.timeoutMs
  running : r.running = []
  /-- Until the closers are called time stands still. -/
  still : r.stage = .supervising → r₀.stage = .supervising ∧ r.now = r₀.now
  since : ∀ {since}, r.since? = some since →
    since ≤ r₀.now ∧ (r₀.stage = .supervising → since = r₀.now)
  bound : (∀ c ∈ r₀.closers, c.returns) → r.now ≤ r₀.now + max r₀.timeoutMs (callingMs r₀.closers)
  /-- The run does not return before the calls are over. -/
  late : r₀.stage = .supervising → r.stage = .returned → r₀.now + callingMs r₀.closers ≤ r.now

namespace InTime

theorem start (hTracks : Tracks processes closers timeoutMs moves r₀) (hRunning : r₀.running = []) :
    InTime r₀ r₀ where
  closers := rfl
  timeout := rfl
  running := hRunning
  still hStage := ⟨hStage, rfl⟩
  since := by
    intro since hSince
    have hTimely := hTracks.timely
    unfold since? at hSince
    split at hSince
    · next hStage =>
      cases hSince
      rw [hStage] at hTimely
      obtain ⟨_, -, -, hBegan, hNow, -⟩ := hTimely
      exact ⟨by omega, fun hSupervising => nomatch hStage.symm.trans hSupervising⟩
    · next hStage =>
      cases hSince
      rw [hStage] at hTimely
      obtain ⟨-, hNow, -⟩ := hTimely
      exact ⟨by omega, fun hSupervising => nomatch hStage.symm.trans hSupervising⟩
    all_goals cases hSince
  bound _ := Nat.le_add_right _ _
  late hSupervising hReturned := nomatch hSupervising.symm.trans hReturned

/-- The time that a wait leads to is bounded like any other at which closers are called or waited for. -/
theorem wait (h : InTime r₀ r) (ms : Nat) {since : Nat} (hSince : r.since? = some since)
    (hTimely : Timely r.closers r.timeoutMs (r.now + ms) r.stage) : InTime r₀ { r with now := r.now + ms } := by
  refine { h with still := ?_, bound := ?_, late := ?_ }
  · intro hStage
    simp [since?, show r.stage = .supervising from hStage] at hSince
  · intro hReturn
    have hNow := now_le_of_since? (r := { r with now := r.now + ms }) hTimely (h.closers ▸ hReturn) hSince
    have hStart := (h.since hSince).1
    rw [← h.closers, ← h.timeout]
    exact Nat.le_trans hNow (Nat.add_le_add_right hStart _)
  · intro _ hStage
    simp [since?, show r.stage = .returned from hStage] at hSince

/-- A move that leads to calls that are going on or over takes no time. -/
theorem keep (h : InTime r₀ r) {stage : Stage} {since : Nat}
    (hSome : since? { r with stage := stage } = some since)
    (hSince : since ≤ r₀.now ∧ (r₀.stage = .supervising → since = r₀.now)) :
    InTime r₀ { r with stage := stage } := by
  refine { h with still := ?_, since := ?_, late := ?_ }
  · rintro rfl
    cases hSome
  · intro since' hSome'
    obtain rfl := Option.some.inj (hSome.symm.trans hSome')
    exact hSince
  · rintro - rfl
    cases hSome

theorem step (h : InTime r₀ r) (hTimely : Timely r.closers r.timeoutMs r.now r.stage)
    (hStep : r.Step m r') : InTime r₀ r' := by
  have hTimely' := hStep.timely hTimely
  cases hStep with
  | idle ms hStage hEnded hRunning => exact absurd h.running hRunning
  | waitInCall ms hStage | wait ms hStage => exact h.wait ms (by rw [since?, hStage]) hTimely'
  | processEnds how hRunning =>
    rw [h.running] at hRunning
    cases hRunning
  | join | cancel => exact { h with }
  | close hStage hRunning hEnded =>
    obtain ⟨-, hNow⟩ := h.still hStage
    exact h.keep (since?_callFrom r r.now 0 []) ⟨Nat.le_of_eq hNow, fun _ => hNow⟩
  | handsBack hStage hCall hTime =>
    exact h.keep (since?_callFrom r _ _ _) (h.since (by rw [since?, hStage]))
  | panics hStage => exact { h with still := nofun, since := nofun, late := nofun }
  | closerEndsInCall how hStage | closerEnds how hStage =>
    exact h.keep rfl (h.since (by rw [since?, hStage]))
  | leave hStage hDone =>
    refine { h with still := nofun, since := nofun, late := ?_ }
    intro hSupervising _
    have hSince := (h.since (by rw [since?, hStage])).2 hSupervising
    rw [hStage] at hTimely
    rw [← h.closers, ← hSince]
    exact hTimely.2.1

end InTime

/-- The call of the first of two closers panics: the second one is never called. -/
example :
    let r? := (Run.start 1 [.panics 0, .handsBack 0] 100).play? [.processEnds 0 .ok, .join, .close, .called]
    r?.map (·.stage) = some .unwound ∧ r?.bind (·.step? .called) = none ∧ r?.bind (·.result?) = none := by
  decide

end Run

end Lorawan.Supervisor
