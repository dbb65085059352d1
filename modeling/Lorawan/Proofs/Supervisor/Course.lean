import Lorawan.Supervisor.Lifecycle
import Mathlib.Data.List.Induction

/-!
# The course of a run

What every run of the machine keeps, whatever happens in it.

* **One move**: `Run.Step` says all that a move can do, and when (`Run.step_of_step?`, `Run.Step.step?_eq`).
* **The calls**: the closers are called one after the other, each as long as its call takes, and no further
  than to one that panics (`Stage.Timely`).
* **The history**: `endings` lists how the processes have ended, in this order; they are joined in the same
  order, so that the first of them are those joined (`Run.Tracks`).
* **Its end**: once all processes have ended, a run whose calls hand something back can return by itself
  before the closers' time is over (`Run.Tracks.canReturnBy`), and only so many moves lead there
  (`Run.progress_le`).
-/

namespace Lorawan.Supervisor

/-! ## Moves -/

namespace Move

/-- The end of a process, if the move is that. -/
def ending? : Move → Option (Nat × End)
  | processEnds number how => some (number, how)
  | _ => none

/-- Whether the run makes the move by itself: no process, no closer and nobody else does. -/
def isOwn : Move → Bool
  | wait _ | join | close | called | leave => true
  | processEnds .. | cancel | closerEnds .. => false

/-- Whether the move leaves less to be done. -/
def isProgress : Move → Bool
  | wait _ | cancel => false
  | processEnds .. | join | close | called | closerEnds .. | leave => true

end Move

/-! ## Calls -/

/-- Whether the call hands something back. -/
def Call.returns : Call → Bool
  | handsBack _ => true
  | panics _ | hangs => false

theorem Call.returns_iff {call : Call} : call.returns = true ↔ ∃ ms, call = .handsBack ms := by
  cases call <;> simp [returns]

/-- How long some calls take one after the other, as far as they are ever over. -/
def callingMs : List Call → Nat
  | [] => 0
  | call :: calls => call.ms?.getD 0 + callingMs calls

section Calls

variable {calls : List Call} {call : Call} {number : Nat}

theorem callingMs_append (calls more : List Call) :
    callingMs (calls ++ more) = callingMs calls + callingMs more := by
  induction calls with
  | nil => exact (Nat.zero_add _).symm
  | cons call calls ih => rw [List.cons_append, callingMs, ih, callingMs, Nat.add_assoc]

theorem take_concat_of_getElem? (h : calls[number]? = some call) :
    calls.take (number + 1) = calls.take number ++ [call] := by
  rw [List.take_add_one, h]
  rfl

theorem callingMs_take_succ (h : calls[number]? = some call) :
    callingMs (calls.take (number + 1)) = callingMs (calls.take number) + call.ms?.getD 0 := by
  rw [take_concat_of_getElem? h, callingMs_append]
  rfl

/-- A call and those before it are among all. -/
theorem callingMs_take_add_le (h : calls[number]? = some call) :
    callingMs (calls.take number) + call.ms?.getD 0 ≤ callingMs calls := by
  have hSplit := callingMs_append (calls.take (number + 1)) (calls.drop (number + 1))
  rw [List.take_append_drop, callingMs_take_succ h] at hSplit
  omega

end Calls

/-- How the processes have ended in some moves, in this order. -/
def endings (moves : List Move) : List (Nat × End) := moves.filterMap Move.ending?

theorem endings_concat (moves : List Move) (m : Move) :
    endings (moves ++ [m]) = endings moves ++ m.ending?.toList := by
  cases m <;> simp [endings, Move.ending?]

theorem count_join_concat {moves : List Move} {m : Move} (h : m ≠ .join) :
    (moves ++ [m]).count .join = moves.count .join := by
  rw [List.count_append, List.count_singleton, if_neg (by simpa using h), Nat.add_zero]

/-- How the processes that have been joined had ended. -/
def joined (moves : List Move) : List (Nat × End) := (endings moves).take (moves.count .join)

namespace Run

/-! ## One move -/

/-- What a move makes of a run, and when it is possible. -/
inductive Step (r : Run) : Move → Run → Prop
  | idle (ms : Nat) (hStage : r.stage = .supervising) (hEnded : r.ended = [])
      (hRunning : r.running ≠ []) :
    Step r (.wait ms) { r with now := r.now + ms }
  | waitInCall (ms : Nat) {since began number : Nat} {waiting : List Nat} {call : Call}
      (hStage : r.stage = .calling since began number waiting) (hCall : r.closers[number]? = some call)
      (hTime : ∀ callMs ∈ call.ms?, r.now + ms ≤ began + callMs) :
    Step r (.wait ms) { r with now := r.now + ms }
  | wait (ms : Nat) {since : Nat} {waiting : List Nat} (hStage : r.stage = .closing since waiting)
      (hWaiting : waiting ≠ []) (hTime : r.now + ms ≤ since + r.timeoutMs) :
    Step r (.wait ms) { r with now := r.now + ms }
  | processEnds {number : Nat} (how : End) (hRunning : number ∈ r.running) :
    Step r (.processEnds number how)
      { r with running := r.running.erase number, ended := r.ended ++ [(number, how)] }
  | join {number : Nat} {how : End} {rest : List (Nat × End)} (hEnded : r.ended = (number, how) :: rest) :
    Step r .join { r with ended := rest, supervisor := r.supervisor.join how }
  | cancel : Step r .cancel { r with supervisor := r.supervisor.cancel }
  | close (hStage : r.stage = .supervising) (hRunning : r.running = []) (hEnded : r.ended = []) :
    Step r .close { r with stage := r.callFrom r.now 0 [] }
  | handsBack {since began number ms : Nat} {waiting : List Nat}
      (hStage : r.stage = .calling since began number waiting)
      (hCall : r.closers[number]? = some (.handsBack ms)) (hTime : r.now = began + ms) :
    Step r .called { r with stage := r.callFrom since (number + 1) (waiting ++ [number]) }
  | panics {since began number ms : Nat} {waiting : List Nat}
      (hStage : r.stage = .calling since began number waiting)
      (hCall : r.closers[number]? = some (.panics ms)) (hTime : r.now = began + ms) :
    Step r .called { r with stage := .unwound }
  | closerEndsInCall {number since began next : Nat} {waiting : List Nat} (how : End)
      (hStage : r.stage = .calling since began next waiting) (hWaiting : number ∈ waiting) :
    Step r (.closerEnds number how) { r with stage := .calling since began next (waiting.erase number) }
  | closerEnds {number since : Nat} {waiting : List Nat} (how : End)
      (hStage : r.stage = .closing since waiting) (hWaiting : number ∈ waiting) :
    Step r (.closerEnds number how) { r with stage := .closing since (waiting.erase number) }
  | leave {since : Nat} {waiting : List Nat} (hStage : r.stage = .closing since waiting)
      (hDone : waiting = [] ∨ since + r.timeoutMs ≤ r.now) :
    Step r .leave { r with stage := .returned }

theorem step_of_step? {r r' : Run} {m : Move} (h : r.step? m = some r') : r.Step m r' := by
  rcases r with ⟨now, stage, running, ended, supervisor, closers, timeoutMs⟩
  cases m with
  | wait ms =>
    -- what bounds a wait is what the run waits for
    rcases stage with _ | ⟨since, began, number, waiting⟩ | ⟨since, waiting⟩ | _ | _
    · obtain ⟨⟨hEnded, hRunning⟩, rfl⟩ := Option.ite_some_none_eq_some.mp h
      exact .idle ms rfl hEnded hRunning
    · cases hCall : closers[number]? with
      | none => simp [step?, hCall] at h
      | some call =>
        simp only [step?, hCall] at h
        obtain ⟨hTime, rfl⟩ := Option.ite_some_none_eq_some.mp h
        exact .waitInCall ms rfl hCall hTime
    · obtain ⟨⟨hWaiting, hTime⟩, rfl⟩ := Option.ite_some_none_eq_some.mp h
      exact .wait ms rfl hWaiting hTime
    · cases h
    · cases h
  | processEnds number how =>
    obtain ⟨hRunning, rfl⟩ := Option.ite_some_none_eq_some.mp h
    exact .processEnds how hRunning
  | join =>
    rcases ended with _ | ⟨⟨number, how⟩, rest⟩
    · cases h
    · cases h
      exact .join rfl
  | cancel =>
    cases h
    exact .cancel
  | close =>
    obtain ⟨⟨hStage, hRunning, hEnded⟩, rfl⟩ := Option.ite_some_none_eq_some.mp h
    exact .close hStage hRunning hEnded
  | called =>
    rcases stage with _ | ⟨since, began, number, waiting⟩ | ⟨since, waiting⟩ | _ | _
    case calling =>
      cases hCall : closers[number]? with
      | none => simp [step?, hCall] at h
      | some call =>
        simp only [step?, hCall] at h
        cases call with
        | handsBack ms =>
          obtain ⟨hTime, rfl⟩ := Option.ite_some_none_eq_some.mp h
          exact .handsBack rfl hCall hTime
        | panics ms =>
          obtain ⟨hTime, rfl⟩ := Option.ite_some_none_eq_some.mp h
          exact .panics rfl hCall hTime
        | hangs => cases h
    all_goals cases h
  | closerEnds number how =>
    rcases stage with _ | ⟨since, began, next, waiting⟩ | ⟨since, waiting⟩ | _ | _
    case calling =>
      obtain ⟨hWaiting, rfl⟩ := Option.ite_some_none_eq_some.mp h
      exact .closerEndsInCall how rfl hWaiting
    case closing =>
      obtain ⟨hWaiting, rfl⟩ := Option.ite_some_none_eq_some.mp h
      exact .closerEnds how rfl hWaiting
    all_goals cases h
  | leave =>
    rcases stage with _ | ⟨since, began, number, waiting⟩ | ⟨since, waiting⟩ | _ | _
    case closing =>
      obtain ⟨hDone, rfl⟩ := Option.ite_some_none_eq_some.mp h
      exact .leave rfl hDone
    all_goals cases h

theorem Step.step?_eq {r r' : Run} {m : Move} (h : r.Step m r') : r.step? m = some r' := by
  cases h with
  | idle ms hStage hEnded hRunning => simp [step?, hStage, hEnded, hRunning]
  | waitInCall ms hStage hCall hTime =>
    simp only [step?, hStage, hCall]
    rw [if_pos hTime]
  | wait ms hStage hWaiting hTime => simp [step?, hStage, hWaiting, hTime]
  | processEnds how hRunning => simp [step?, hRunning]
  | join hEnded => simp [step?, hEnded]
  | cancel => rfl
  | close hStage hRunning hEnded => simp [step?, hStage, hRunning, hEnded]
  | handsBack hStage hCall hTime => simp [step?, hStage, hCall, hTime]
  | panics hStage hCall hTime => simp [step?, hStage, hCall, hTime]
  | closerEndsInCall how hStage hWaiting => simp [step?, hStage, hWaiting]
  | closerEnds how hStage hWaiting => simp [step?, hStage, hWaiting]
  | leave hStage hDone => simp [step?, hStage, hDone]

/-! ## Many moves -/

theorem play?_append (r : Run) (moves more : List Move) :
    r.play? (moves ++ more) = (r.play? moves).bind (·.play? more) := List.foldlM_append

theorem play?_concat (r : Run) (moves : List Move) (m : Move) :
    r.play? (moves ++ [m]) = (r.play? moves).bind (·.step? m) := by
  rw [play?_append]
  congr 1
  funext r₁
  exact bind_pure (r₁.step? m)

theorem Step.play?_cons {r r' : Run} {m : Move} (h : r.Step m r') (moves : List Move) :
    r.play? (m :: moves) = r'.play? moves := by
  show (r.step? m).bind _ = _
  rw [h.step?_eq]
  rfl

/-- What holds at the start and is kept by every move holds after all moves. -/
theorem play_induction {s : Run} {P : List Move → Run → Prop} (hStart : P [] s)
    (hStep : ∀ {moves r m r'}, s.play? moves = some r → P moves r → r.Step m r' → P (moves ++ [m]) r')
    {moves : List Move} {r : Run} (hPlay : s.play? moves = some r) : P moves r := by
  induction moves using List.reverseRecOn generalizing r with
  | nil =>
    cases hPlay
    exact hStart
  | append_singleton moves m ih =>
    rw [play?_concat] at hPlay
    obtain ⟨r₀, hBefore, hMove⟩ := Option.bind_eq_some_iff.mp hPlay
    exact hStep hBefore (ih hBefore) (step_of_step? hMove)

/-! ## The calls of a run -/

/-- What a stage says of the calls that were made, and of the time that they took. -/
def Timely (closers : List Call) (timeoutMs now : Nat) : Stage → Prop
  | .supervising => True
  | .calling since began number _ =>
    ∃ call, closers[number]? = some call ∧ (∀ c ∈ closers.take number, c.returns) ∧
      began = since + callingMs (closers.take number) ∧ began ≤ now ∧ ∀ ms ∈ call.ms?, now ≤ began + ms
  | .closing since _ =>
    (∀ c ∈ closers, c.returns) ∧ since + callingMs closers ≤ now ∧
      now ≤ since + max timeoutMs (callingMs closers)
  | .returned => ∀ c ∈ closers, c.returns
  | .unwound =>
    ∃ number ms, closers[number]? = some (.panics ms) ∧ ∀ c ∈ closers.take number, c.returns

theorem callFrom_cases (r : Run) (since number : Nat) (waiting : List Nat) :
    (number < r.closers.length ∧ r.callFrom since number waiting = .calling since r.now number waiting) ∨
      (r.closers.length ≤ number ∧ r.callFrom since number waiting = .closing since waiting) := by
  unfold callFrom
  split
  · next hMore => exact Or.inl ⟨hMore, rfl⟩
  · next hNone => exact Or.inr ⟨Nat.le_of_not_lt hNone, rfl⟩

theorem timely_callFrom {r : Run} {since number : Nat} (waiting : List Nat)
    (hReturn : ∀ c ∈ r.closers.take number, c.returns)
    (hNow : r.now = since + callingMs (r.closers.take number)) :
    Timely r.closers r.timeoutMs r.now (r.callFrom since number waiting) := by
  rcases r.callFrom_cases since number waiting with ⟨hMore, hStage⟩ | ⟨hNone, hStage⟩
  · rw [hStage]
    exact ⟨_, List.getElem?_eq_getElem hMore, hReturn, hNow, Nat.le_refl _, fun _ _ => Nat.le_add_right _ _⟩
  · rw [List.take_of_length_le hNone] at hReturn hNow
    rw [hStage]
    exact ⟨hReturn, Nat.le_of_eq hNow.symm, by omega⟩

theorem Step.timely {r r' : Run} {m : Move} (h : r.Step m r')
    (hTimely : Timely r.closers r.timeoutMs r.now r.stage) :
    Timely r'.closers r'.timeoutMs r'.now r'.stage := by
  cases h with
  | idle ms hStage hEnded hRunning =>
    show Timely r.closers r.timeoutMs (r.now + ms) r.stage
    rw [hStage]
    trivial
  | waitInCall ms hStage hCall hTime =>
    show Timely r.closers r.timeoutMs (r.now + ms) r.stage
    rw [hStage] at hTimely ⊢
    obtain ⟨_, _, hReturn, hBegan, hNow, -⟩ := hTimely
    exact ⟨_, hCall, hReturn, hBegan, Nat.le_add_right_of_le hNow, hTime⟩
  | wait ms hStage hWaiting hTime =>
    show Timely r.closers r.timeoutMs (r.now + ms) r.stage
    rw [hStage] at hTimely ⊢
    obtain ⟨hReturn, hNow, -⟩ := hTimely
    exact ⟨hReturn, Nat.le_add_right_of_le hNow, by omega⟩
  | processEnds | join | cancel => exact hTimely
  | close hStage hRunning hEnded =>
    exact timely_callFrom [] (fun _ hMem => absurd hMem List.not_mem_nil) rfl
  | @handsBack since began number ms waiting hStage hCall hTime =>
    rw [hStage] at hTimely
    obtain ⟨_, _, hReturn, hBegan, -, -⟩ := hTimely
    -- the call began where those before it were over, so it ends where the next one is to begin
    refine timely_callFrom (waiting ++ [number]) ?_ ?_
    · rw [take_concat_of_getElem? hCall]
      exact List.forall_mem_append.mpr ⟨hReturn, List.forall_mem_singleton.mpr rfl⟩
    · rw [callingMs_take_succ hCall, hTime, hBegan, Nat.add_assoc]
      rfl
  | panics hStage hCall hTime =>
    rw [hStage] at hTimely
    obtain ⟨_, _, hReturn, -⟩ := hTimely
    exact ⟨_, _, hCall, hReturn⟩
  | closerEndsInCall how hStage hWaiting | closerEnds how hStage hWaiting =>
    rw [hStage] at hTimely
    exact hTimely
  | leave hStage hDone =>
    rw [hStage] at hTimely
    exact hTimely.1

/-! ## The history of a run -/

/-- How a run that has come so far is related to its history. -/
structure Tracks (processes : Nat) (closers : List Call) (timeoutMs : Nat) (moves : List Move) (r : Run) :
    Prop where
  closers : r.closers = closers
  timeout : r.timeoutMs = timeoutMs
  /-- Each process has ended once or is running. -/
  numbers : ((endings moves).map Prod.fst ++ r.running).Perm (List.range processes)
  /-- Only what has ended is joined. -/
  joins : moves.count .join ≤ (endings moves).length
  /-- The rest is what has not been joined yet. -/
  queue : r.ended = (endings moves).drop (moves.count .join)
  /-- The closers start when nothing is left to be joined. -/
  idle : r.stage ≠ .supervising → r.running = [] ∧ r.ended = []
  timely : Timely r.closers r.timeoutMs r.now r.stage

namespace Tracks

variable {processes timeoutMs : Nat} {closers : List Call} {moves : List Move} {r r' : Run} {m : Move}

theorem start (processes : Nat) (closers : List Call) (timeoutMs : Nat) :
    Tracks processes closers timeoutMs [] (Run.start processes closers timeoutMs) where
  closers := rfl
  timeout := rfl
  numbers := List.Perm.refl _
  joins := Nat.le_refl 0
  queue := rfl
  idle h := absurd rfl h
  timely := trivial

/-- A move that ends no process and joins none leaves the history as it is. -/
theorem keep (h : Tracks processes closers timeoutMs moves r) (hEnding : m.ending? = none)
    (hJoin : m ≠ .join) (now : Nat) (stage : Stage) (supervisor : Supervisor)
    (hIdle : stage ≠ .supervising → r.running = [] ∧ r.ended = [])
    (hTimely : Timely r.closers r.timeoutMs now stage) :
    Tracks processes closers timeoutMs (moves ++ [m])
      { r with now := now, stage := stage, supervisor := supervisor } := by
  have hEndings : endings (moves ++ [m]) = endings moves := by
    rw [endings_concat, hEnding]
    exact List.append_nil _
  exact
    { h with
      numbers := hEndings ▸ h.numbers
      joins := by rw [hEndings, count_join_concat hJoin]; exact h.joins
      queue := by rw [hEndings, count_join_concat hJoin]; exact h.queue
      idle := hIdle
      timely := hTimely }

theorem processEnds (h : Tracks processes closers timeoutMs moves r) {number : Nat} (how : End)
    (hRunning : number ∈ r.running) :
    Tracks processes closers timeoutMs (moves ++ [Move.processEnds number how])
      { r with running := r.running.erase number, ended := r.ended ++ [(number, how)] } := by
  have hEndings : endings (moves ++ [Move.processEnds number how]) = endings moves ++ [(number, how)] :=
    endings_concat moves _
  have hCount : (moves ++ [Move.processEnds number how]).count Move.join = moves.count Move.join :=
    count_join_concat (by nofun)
  refine { h with numbers := ?_, joins := ?_, queue := ?_, idle := ?_ }
  · -- the number moves from the one list to the other
    rw [hEndings, List.map_append, List.append_assoc]
    exact ((List.perm_cons_erase hRunning).symm.append_left _).trans h.numbers
  · rw [hEndings, hCount, List.length_append]
    exact Nat.le_add_right_of_le h.joins
  · rw [hEndings, hCount, List.drop_append_of_le_length h.joins, ← h.queue]
  · -- while a process runs, the closers have not started
    intro hStage
    have hNone := (h.idle hStage).1
    rw [hNone] at hRunning
    cases hRunning

theorem join (h : Tracks processes closers timeoutMs moves r) {number : Nat} {how : End}
    {rest : List (Nat × End)} (hEnded : r.ended = (number, how) :: rest) :
    Tracks processes closers timeoutMs (moves ++ [Move.join])
      { r with ended := rest, supervisor := r.supervisor.join how } := by
  have hEndings : endings (moves ++ [Move.join]) = endings moves :=
    (endings_concat moves _).trans (List.append_nil _)
  have hCount : (moves ++ [Move.join]).count Move.join = moves.count Move.join + 1 := by
    simp
  have hDrop : (endings moves).drop (moves.count .join) = (number, how) :: rest := by
    rw [← h.queue, hEnded]
  refine { h with numbers := hEndings ▸ h.numbers, joins := ?_, queue := ?_, idle := ?_ }
  · -- the queue is not empty, so fewer were joined than have ended
    have hLength := congrArg List.length hDrop
    rw [List.length_drop, List.length_cons] at hLength
    rw [hEndings, hCount]
    omega
  · rw [hEndings, hCount, ← List.tail_drop, hDrop]
    rfl
  · intro hStage
    have hNone := (h.idle hStage).2
    rw [hEnded] at hNone
    cases hNone

theorem step (h : Tracks processes closers timeoutMs moves r) (hStep : r.Step m r') :
    Tracks processes closers timeoutMs (moves ++ [m]) r' := by
  have hTimely := hStep.timely h.timely
  cases hStep with
  | idle | waitInCall | wait => exact h.keep rfl (by nofun) _ _ _ h.idle hTimely
  | processEnds how hRunning => exact h.processEnds how hRunning
  | join hEnded => exact h.join hEnded
  | cancel => exact h.keep rfl (by nofun) _ _ _ h.idle hTimely
  | close hStage hRunning hEnded =>
    exact h.keep rfl (by nofun) _ _ _ (fun _ => ⟨hRunning, hEnded⟩) hTimely
  | handsBack hStage | panics hStage | closerEndsInCall how hStage | closerEnds how hStage | leave hStage =>
    exact h.keep rfl (by nofun) _ _ _ (fun _ => h.idle (by simp [hStage])) hTimely

theorem play (hPlay : (Run.start processes closers timeoutMs).play? moves = some r) :
    Tracks processes closers timeoutMs moves r :=
  play_induction (start processes closers timeoutMs) (fun _ h hStep => h.step hStep) hPlay

/-- What has been joined and what has not make up all that has ended. -/
theorem joined_append (h : Tracks processes closers timeoutMs moves r) :
    joined moves ++ r.ended = endings moves := by
  rw [joined, h.queue, List.take_append_drop]

/-- What is joined next is the first ending that was not joined yet. -/
theorem getElem?_endings (h : Tracks processes closers timeoutMs moves r) {e : Nat × End}
    {rest : List (Nat × End)} (hEnded : r.ended = e :: rest) :
    (endings moves)[moves.count .join]? = some e := by
  rw [← List.head?_drop, ← h.queue, hEnded, List.head?_cons]

theorem joined_join (h : Tracks processes closers timeoutMs moves r) {e : Nat × End}
    {rest : List (Nat × End)} (hEnded : r.ended = e :: rest) :
    joined (moves ++ [Move.join]) = joined moves ++ [e] := by
  simp only [joined, endings_concat, List.count_append, List.count_singleton_self, List.take_add_one]
  rw [show Move.join.ending?.toList = [] from rfl, List.append_nil, h.getElem?_endings hEnded]
  rfl

theorem joined_keep (h : Tracks processes closers timeoutMs moves r) (hJoin : m ≠ .join) :
    joined (moves ++ [m]) = joined moves := by
  rw [joined, count_join_concat hJoin, endings_concat, List.take_append_of_le_length h.joins, joined]

/-- When the closers have started, all that has ended has been joined. -/
theorem joined_eq_endings (h : Tracks processes closers timeoutMs moves r) (hStage : r.stage ≠ .supervising) :
    joined moves = endings moves := by
  rw [← h.joined_append, (h.idle hStage).2, List.append_nil]

/-- When the closers have started, all processes have ended. -/
theorem endings_perm (h : Tracks processes closers timeoutMs moves r) (hStage : r.stage ≠ .supervising) :
    ((endings moves).map Prod.fst).Perm (List.range processes) := by
  have hNumbers := h.numbers
  rwa [(h.idle hStage).1, List.append_nil] at hNumbers

end Tracks
/-! ## The end of a run -/

/-- The run can return by itself until then, where the calls of closers hand something back when their time
is over. -/
def CanReturnBy (r : Run) (limit : Nat) : Prop :=
  ∃ moves r', (∀ m ∈ moves, m.isOwn) ∧ r.play? moves = some r' ∧ r'.stage = .returned ∧ r'.now ≤ limit

section CanReturn

variable {r r' : Run} {m : Move} {since began number limit : Nat} {waiting : List Nat}

theorem Step.canReturnBy (h : r.Step m r') (hOwn : m.isOwn) (hReturn : r'.CanReturnBy limit) :
    r.CanReturnBy limit := by
  obtain ⟨moves, r'', hAll, hPlay, hStage, hTime⟩ := hReturn
  refine ⟨m :: moves, r'', List.forall_mem_cons.mpr ⟨hOwn, hAll⟩, ?_, hStage, hTime⟩
  rw [h.play?_cons, hPlay]

theorem canReturnBy_of_returned (hStage : r.stage = .returned) (hNow : r.now ≤ limit) :
    r.CanReturnBy limit := ⟨[], r, nofun, rfl, hStage, hNow⟩

theorem canReturnBy_of_closing (hStage : r.stage = .closing since waiting) (hNow : r.now ≤ limit)
    (hTime : since + r.timeoutMs ≤ limit) : r.CanReturnBy limit := by
  by_cases hDone : waiting = [] ∨ since + r.timeoutMs ≤ r.now
  · exact (Step.leave hStage hDone).canReturnBy rfl (canReturnBy_of_returned rfl hNow)
  · -- the worst case: the closers' time runs out
    rw [not_or, Nat.not_le] at hDone
    obtain ⟨ms, hRest⟩ := Nat.exists_eq_add_of_le (Nat.le_of_lt hDone.2)
    refine (Step.wait ms hStage hDone.1 (Nat.le_of_eq hRest.symm)).canReturnBy rfl ?_
    have hLeave := Step.leave (r := { r with now := r.now + ms }) hStage (Or.inr (Nat.le_of_eq hRest))
    exact hLeave.canReturnBy rfl (canReturnBy_of_returned rfl (hRest ▸ hTime))

/-- What follows a call that has handed something back is the next call, or none. -/
theorem exists_handsBack {ms : Nat} (hStage : r.stage = .calling since began number waiting)
    (hCall : r.closers[number]? = some (.handsBack ms)) (hTime : r.now = began + ms) :
    ∃ r', r.Step .called r' ∧ r'.closers = r.closers ∧ r'.timeoutMs = r.timeoutMs ∧
      (r'.stage = .calling since r.now (number + 1) (waiting ++ [number]) ∨
        r'.stage = .closing since (waiting ++ [number])) := by
  refine ⟨_, .handsBack hStage hCall hTime, rfl, rfl, ?_⟩
  rcases r.callFrom_cases since (number + 1) (waiting ++ [number]) with ⟨-, hNext⟩ | ⟨-, hNext⟩
  · exact Or.inl hNext
  · exact Or.inr hNext

/-- The calls are made one after the other, and then the closers end or their time does. -/
theorem canReturnBy_of_calling (hStage : r.stage = .calling since began number waiting)
    (hReturn : ∀ c ∈ r.closers, c.returns) (hTimely : Timely r.closers r.timeoutMs r.now r.stage) :
    r.CanReturnBy (since + max r.timeoutMs (callingMs r.closers)) := by
  -- by the number of calls that are left
  induction hLeft : r.closers.length - number generalizing r began number waiting with
  | zero =>
    rw [hStage] at hTimely
    obtain ⟨call, hCall, -⟩ := hTimely
    have hLt := (List.getElem?_eq_some_iff.mp hCall).1
    omega
  | succ left ih =>
    have hCalling := hTimely
    rw [hStage] at hCalling
    obtain ⟨call, hCall, -, -, -, hNow⟩ := hCalling
    obtain ⟨callMs, rfl⟩ := Call.returns_iff.mp (hReturn call (List.mem_of_getElem? hCall))
    -- the call takes what is left of its time
    obtain ⟨ms, hRest⟩ := Nat.exists_eq_add_of_le (hNow callMs rfl)
    have hWait : Step r (.wait ms) { r with now := r.now + ms } := by
      refine .waitInCall ms hStage hCall fun _ hMs => ?_
      cases hMs
      exact Nat.le_of_eq hRest.symm
    obtain ⟨r', hCalled, hClosers, hTimeout, hNext⟩ :=
      exists_handsBack (r := { r with now := r.now + ms }) hStage hCall hRest.symm
    have hTimely' := hCalled.timely (hWait.timely hTimely)
    refine hWait.canReturnBy rfl (hCalled.canReturnBy rfl ?_)
    rw [← show r'.closers = r.closers from hClosers, ← show r'.timeoutMs = r.timeoutMs from hTimeout]
    rcases hNext with hNext | hNext
    · refine ih hNext (hClosers ▸ hReturn) hTimely' ?_
      rw [hClosers, Nat.sub_add_eq, hLeft]
      rfl
    · rw [hNext] at hTimely'
      exact canReturnBy_of_closing hNext hTimely'.2.2 (Nat.add_le_add_left (Nat.le_max_left _ _) _)

theorem canReturnBy_of_supervising (hStage : r.stage = .supervising) (hRunning : r.running = [])
    (hReturn : ∀ c ∈ r.closers, c.returns) :
    r.CanReturnBy (r.now + max r.timeoutMs (callingMs r.closers)) := by
  -- what has ended is joined one by one
  induction hEnded : r.ended generalizing r with
  | nil =>
    have hClose := Step.close hStage hRunning hEnded
    refine hClose.canReturnBy rfl ?_
    have hTimely := hClose.timely (by rw [hStage]; trivial)
    rcases r.callFrom_cases r.now 0 [] with ⟨-, hNext⟩ | ⟨-, hNext⟩
    · exact canReturnBy_of_calling hNext hReturn hTimely
    · exact canReturnBy_of_closing hNext (Nat.le_add_right _ _)
        (Nat.add_le_add_left (Nat.le_max_left _ _) _)
  | cons e rest ih => exact (Step.join hEnded).canReturnBy rfl (ih hStage hRunning hReturn rfl)

end CanReturn

/-- Once all processes have ended, a run whose calls hand something back can return by itself. -/
theorem Tracks.canReturnBy {processes timeoutMs : Nat} {closers : List Call} {moves : List Move} {r : Run}
    (h : Tracks processes closers timeoutMs moves r) (hRunning : r.running = [])
    (hReturn : ∀ c ∈ closers, c.returns) :
    r.CanReturnBy (r.now + max timeoutMs (callingMs closers)) := by
  have hTimely := h.timely
  obtain rfl := h.closers
  obtain rfl := h.timeout
  cases hStage : r.stage with
  | supervising => exact canReturnBy_of_supervising hStage hRunning hReturn
  | calling since began number waiting =>
    obtain ⟨moves, r', hAll, hPlay, hReturned, hNow⟩ := canReturnBy_of_calling hStage hReturn hTimely
    rw [hStage] at hTimely
    obtain ⟨_, -, -, hBegan, hLater, -⟩ := hTimely
    exact ⟨moves, r', hAll, hPlay, hReturned, by omega⟩
  | closing since waiting =>
    rw [hStage] at hTimely
    obtain ⟨-, hLater, -⟩ := hTimely
    exact canReturnBy_of_closing hStage (Nat.le_add_right _ _) (by omega)
  | returned => exact canReturnBy_of_returned hStage (Nat.le_add_right _ _)
  | unwound =>
    -- the call that has panicked did not hand anything back
    rw [hStage] at hTimely
    obtain ⟨number, ms, hCall, -⟩ := hTimely
    exact absurd (hReturn _ (List.mem_of_getElem? hCall)) (by simp [Call.returns])

/-- How many moves that leave less to be done there are at most.  Each closer has a call and an end. -/
def toDo (r : Run) : Nat :=
  2 * r.running.length + r.ended.length +
    match r.stage with
    | .supervising => 2 * r.closers.length + 2
    | .calling _ _ number waiting => 2 * (r.closers.length - number) + waiting.length + 1
    | .closing _ waiting => waiting.length + 1
    | .returned | .unwound => 0

theorem toDo_callFrom (r : Run) (since number : Nat) (waiting : List Nat) :
    toDo { r with stage := r.callFrom since number waiting } =
      2 * r.running.length + r.ended.length + (2 * (r.closers.length - number) + waiting.length + 1) := by
  rcases r.callFrom_cases since number waiting with ⟨-, hStage⟩ | ⟨hNone, hStage⟩
  · simp only [toDo, hStage]
  · simp only [toDo, hStage, Nat.sub_eq_zero_of_le hNone]
    omega

/-- A number that is taken out of a list leaves one less. -/
theorem length_erase_succ {numbers : List Nat} {number : Nat} (h : number ∈ numbers) :
    (numbers.erase number).length + 1 = numbers.length := by
  rw [List.length_erase_of_mem h]
  exact Nat.sub_add_cancel (List.length_pos_of_mem h)

theorem Step.toDo_le {r r' : Run} {m : Move} (h : r.Step m r') :
    (if m.isProgress then 1 else 0) + r'.toDo ≤ r.toDo := by
  cases h with
  | idle | waitInCall | wait | cancel => exact Nat.le_of_eq (Nat.zero_add _)
  | processEnds how hRunning =>
    -- what has ended is still to be joined: one of the two that each process counts is left
    have hLess := length_erase_succ hRunning
    simp only [Move.isProgress, toDo, List.length_append, List.length_singleton, if_true]
    omega
  | join hEnded =>
    simp only [Move.isProgress, toDo, hEnded, List.length_cons, if_true]
    omega
  | close hStage hRunning hEnded =>
    rw [toDo_callFrom]
    simp only [Move.isProgress, toDo, hStage, List.length_nil, if_true]
    omega
  | handsBack hStage hCall hTime =>
    -- one call less, and one closer more that has not ended
    have hLt := (List.getElem?_eq_some_iff.mp hCall).1
    rw [toDo_callFrom]
    simp only [Move.isProgress, toDo, hStage, List.length_append, List.length_singleton, if_true]
    omega
  | closerEndsInCall how hStage hWaiting | closerEnds how hStage hWaiting =>
    have hLess := length_erase_succ hWaiting
    simp only [Move.isProgress, toDo, hStage, if_true]
    omega
  | panics hStage | leave hStage =>
    simp only [Move.isProgress, toDo, hStage, if_true]
    omega

/-- However a run goes, only so many of its moves leave less to be done. -/
theorem progress_le {processes timeoutMs : Nat} {closers : List Call} {moves : List Move} {r : Run}
    (hPlay : (Run.start processes closers timeoutMs).play? moves = some r) :
    moves.countP Move.isProgress + r.toDo ≤ 2 * processes + 2 * closers.length + 2 := by
  refine play_induction (P := fun moves r => moves.countP Move.isProgress + r.toDo ≤ _) ?_ ?_ hPlay
  · simp [toDo, Run.start, Nat.add_assoc]
  · intro moves r m r' _ h hStep
    have hMove := hStep.toDo_le
    rw [List.countP_append, List.countP_singleton]
    omega

end Run

end Lorawan.Supervisor
