import Lorawan.Supervisor.Timeline
import Lorawan.Proofs.Supervisor.Outcome

/-!
# Timelines are runs

Where the behaviour of all processes and closers is laid down, the timeline goes through one of the runs of
the machine, and what it reports is what this run gives (`report?_isRun`).  So what holds of all runs holds of
every report: where nothing but failures cancels the token, it is an error exactly if a process is to fail
(`report?_isOk_iff`).

* **One point**: `Timeline.Follows` relates a timeline to a run, and `Timeline.Reached` says that there is one.
  A process that is going on is in hand: it neither is ready nor waits.
* **Processes**: each part of the timeline is some moves of the run or none (`Reached.cancel`,
  `Reached.finish`, `Reached.resume`, `Reached.join`, `Reached.wait`), and so is what happens next
  (`Reached.advance`).
* **Closers**: those that do not hang end in time, or the time runs out (`Plan.leads_closed`).
-/

namespace Lorawan.Supervisor

/-- The supervisor when someone cancels the token after all, or nobody does. -/
def cancelLate (s : Supervisor) (late : Bool) : Supervisor := if late then s.cancel else s

/-- Whether the token is cancelled makes no difference to the error that is reported. -/
theorem result_cancelLate (s : Supervisor) (late : Bool) : (s.cancelLate late).result = s.result := by
  cases late <;> rfl

theorem cancelled_cancelLate (s : Supervisor) (late : Bool) :
    (s.cancelLate late).cancelled = (s.cancelled || late) := by
  cases late with
  | false => exact (Bool.or_false _).symm
  | true => exact (Bool.or_true _).symm

/-- What is laid down of a run. -/
structure Plan where
  processes : List Behaviour
  closers : List Behaviour
  timeoutMs : Nat
  /-- When the token is cancelled from outside. -/
  cancelAt : Option Nat

namespace Plan

/-- The calls of the closers.  A behaviour is what a closer does as a task, which is handed back at once. -/
def calls (p : Plan) : List Call := p.closers.map fun _ => .handsBack 0

/-- The run before anything happens. -/
def start (p : Plan) : Run := .start p.processes.length p.calls p.timeoutMs

/-- Whether a move is as it is laid down. -/
def Allows (p : Plan) : Move → Prop
  | .processEnds number how => (p.processes[number]?).bind (·.ending.end?) = some how
  | .closerEnds number how => (p.closers[number]?).bind (·.ending.end?) = some how
  | .cancel => p.cancelAt.isSome ∨ ∃ b ∈ p.processes, b.cancels
  | .wait _ | .join | .close | .called | .leave => True

/-- Moves that are as laid down lead from one point of a run to another. -/
def Leads (p : Plan) (r r' : Run) : Prop :=
  ∃ moves, (∀ m ∈ moves, p.Allows m) ∧ r.play? moves = some r'

variable {p : Plan} {r r' r'' : Run}

theorem Leads.refl (p : Plan) (r : Run) : p.Leads r r := ⟨[], nofun, rfl⟩

theorem Leads.trans (h : p.Leads r r') (h' : p.Leads r' r'') : p.Leads r r'' := by
  obtain ⟨moves, hAll, hPlay⟩ := h
  obtain ⟨more, hMore, hPlay'⟩ := h'
  refine ⟨moves ++ more, ?_, ?_⟩
  · intro m hMem
    rcases List.mem_append.mp hMem with hMem | hMem
    · exact hAll m hMem
    · exact hMore m hMem
  · rw [Run.play?_append, hPlay, Option.bind_some, hPlay']

theorem Leads.of_step {m : Move} (hAllows : p.Allows m) (hStep : r.Step m r') : p.Leads r r' :=
  ⟨[m], List.forall_mem_singleton.mpr hAllows, hStep.play?_cons []⟩

theorem Leads.given (h : p.Leads p.start r) : r.closers = p.calls ∧ r.timeoutMs = p.timeoutMs := by
  obtain ⟨moves, -, hPlay⟩ := h
  have hTracks := Run.Tracks.play hPlay
  exact ⟨hTracks.closers, hTracks.timeout⟩

end Plan

namespace Timeline

/-! ## One point -/

/-- A run is where a timeline is, while some processes are in hand. -/
structure Follows (p : Plan) (hand : List Nat) (t : Timeline) (r : Run) : Prop where
  now : r.now = t.now
  stage : r.stage = .supervising
  supervisor : r.supervisor = t.supervisor
  ended : r.ended.map Prod.snd = t.ended
  behaviours : t.processes.map Prod.fst = p.processes
  /-- No process is at two places. -/
  nodup : (hand ++ (t.ready ++ t.waiting)).Nodup
  /-- What is somewhere has not ended. -/
  running : ∀ number ∈ hand ++ (t.ready ++ t.waiting), number ∈ r.running
  count : r.running.length + r.ended.length + t.joined = p.processes.length
  /-- No wait is over already. -/
  due : ∀ number ∈ t.waiting, ∀ {b ms}, t.processes[number]? = some (b, .delayed ms) → t.now ≤ ms
  /-- Nor is the one for the outside. -/
  outside : ∀ {ms}, t.cancelAt = some ms → p.cancelAt.isSome ∧ t.now ≤ ms

/-- One of the runs with the plan's ends comes to where the timeline is. -/
def Reached (p : Plan) (hand : List Nat) (t : Timeline) : Prop :=
  ∃ r, p.Leads p.start r ∧ Follows p hand t r

variable {p : Plan} {hand : List Nat} {t : Timeline} {r : Run} {number : Nat} {b : Behaviour}

theorem Reached.start (p : Plan) : Reached p [] (start p.processes p.cancelAt) := by
  refine ⟨p.start, .refl p _, ?_⟩
  exact
    { now := rfl
      stage := rfl
      supervisor := rfl
      ended := rfl
      behaviours := List.map_map.trans (List.map_id _)
      nodup := by simpa [Timeline.start] using List.nodup_range
      running := by simp [Timeline.start, Plan.start, Run.start]
      count := by simp [Timeline.start, Plan.start, Run.start]
      due := nofun
      outside := fun h => ⟨by simp [show p.cancelAt = some _ from h], Nat.zero_le _⟩ }

/-- The run goes on by a move. -/
theorem Reached.step {hand' : List Nat} {t' : Timeline} {m : Move} (h : Reached p hand t)
    (hAllows : p.Allows m)
    (hStep : ∀ r, Follows p hand t r → ∃ r', r.Step m r' ∧ Follows p hand' t' r') :
    Reached p hand' t' := by
  obtain ⟨r, hLeads, hFollows⟩ := h
  obtain ⟨r', hMove, hNext⟩ := hStep r hFollows
  exact ⟨r', hLeads.trans (.of_step hAllows hMove), hNext⟩

/-- The run stays where it is. -/
theorem Reached.stay {hand' : List Nat} {t' : Timeline} (h : Reached p hand t)
    (hStay : ∀ r, Follows p hand t r → Follows p hand' t' r) : Reached p hand' t' := by
  obtain ⟨r, hLeads, hFollows⟩ := h
  exact ⟨r, hLeads, hStay r hFollows⟩

theorem Reached.behaviour (h : Reached p hand t) {progress : Progress}
    (hProcess : t.processes[number]? = some (b, progress)) : p.processes[number]? = some b := by
  obtain ⟨_, _, hFollows⟩ := h
  rw [← hFollows.behaviours, List.getElem?_map, hProcess]
  rfl

theorem Reached.cancelAt (h : Reached p hand t) (hSome : t.cancelAt.isSome) : p.cancelAt.isSome := by
  obtain ⟨_, _, hFollows⟩ := h
  obtain ⟨ms, hAt⟩ := Option.isSome_iff_exists.mp hSome
  exact (hFollows.outside hAt).1

/-! ## Parts of a timeline -/

theorem Follows.note (h : Follows p hand t r) (b : Behaviour) (mark : Mark) :
    Follows p hand (t.note b mark) r := { h with }

theorem Follows.wake (h : Follows p hand t r) (chosen : Behaviour × Progress → Bool) :
    Follows p hand (t.wake chosen) r := by
  have hPerm : (hand ++ ((t.wake chosen).ready ++ (t.wake chosen).waiting)).Perm
      (hand ++ (t.ready ++ t.waiting)) := by
    refine List.Perm.append_left hand ?_
    rw [Timeline.wake, List.append_assoc]
    exact (List.filter_append_perm _ _).append_left _
  exact
    { h with
      nodup := hPerm.nodup_iff.mpr h.nodup
      running := fun number hMem => h.running number (hPerm.mem_iff.mp hMem)
      due := fun number hMem => h.due number (List.mem_filter.mp hMem).1 }

theorem Follows.letGo (h : Follows p [number] t r) : Follows p [] t r :=
  { h with
    nodup := (List.nodup_cons.mp h.nodup).2
    running := fun n hMem => h.running n (List.mem_cons_of_mem _ hMem) }

/-- The process in hand is at another point of its behaviour. -/
theorem Follows.setProgress (h : Follows p [number] t r) (hBehaviour : p.processes[number]? = some b)
    (progress : Progress) : Follows p [number] (t.setProgress number b progress) r := by
  refine { h with behaviours := ?_, due := ?_ }
  · obtain ⟨hLt, hGet⟩ := List.getElem?_eq_some_iff.mp hBehaviour
    show (t.processes.set number (b, progress)).map Prod.fst = p.processes
    rw [List.map_set, h.behaviours]
    show p.processes.set number b = p.processes
    rw [← hGet, List.set_getElem_self]
  · intro n hMem b' ms hProgress
    have hNe : number ≠ n := by
      rintro rfl
      exact (List.nodup_cons.mp h.nodup).1 (List.mem_append_right t.ready hMem)
    exact h.due n hMem ((List.getElem?_set_ne hNe).symm.trans hProgress)

theorem Follows.suspend (h : Follows p [number] t r) (hBehaviour : p.processes[number]? = some b)
    (progress : Progress) (hDue : ∀ ms, progress = .delayed ms → t.now ≤ ms) :
    Follows p [] (t.suspend number b progress) r := by
  have hSet := h.setProgress hBehaviour progress
  have hPerm : (t.ready ++ (t.waiting ++ [number])).Perm (number :: (t.ready ++ t.waiting)) := by
    rw [← List.append_assoc]
    exact List.perm_append_singleton number _
  refine
    { hSet with
      nodup := hPerm.nodup_iff.mpr h.nodup
      running := fun n hMem => h.running n (hPerm.mem_iff.mp hMem)
      due := ?_ }
  intro n hMem b' ms hProgress
  rcases List.mem_append.mp hMem with hMem | hMem
  · exact hSet.due n hMem hProgress
  · -- it is the one that begins to wait
    obtain rfl := List.mem_singleton.mp hMem
    have hSelf : (t.processes.set n (b, progress))[n]? = some (b', .delayed ms) := hProgress
    obtain ⟨hLt, hGet⟩ := List.getElem?_eq_some_iff.mp hSelf
    rw [List.getElem_set_self] at hGet
    exact hDue ms (Prod.ext_iff.mp hGet).2

theorem Reached.cancel (h : Reached p hand t) (hAllows : p.Allows .cancel) : Reached p hand t.cancel := by
  cases hCancelled : t.supervisor.cancelled with
  | true =>
    rw [Timeline.cancel, if_pos hCancelled]
    exact h
  | false =>
    rw [Timeline.cancel, if_neg (by simp [hCancelled])]
    refine h.step hAllows fun r hFollows => ⟨_, .cancel, Follows.wake ?_ listens⟩
    exact { hFollows with supervisor := congrArg Supervisor.cancel hFollows.supervisor }

theorem Reached.note (h : Reached p hand t) (b : Behaviour) (mark : Mark) :
    Reached p hand (t.note b mark) := h.stay fun _ hFollows => hFollows.note b mark

/-- A process comes to its end, or to the point from which it does not go on. -/
theorem Reached.ends (h : Reached p [number] t) (hBehaviour : p.processes[number]? = some b) :
    Reached p [] { t.setProgress number b .ended with ended := t.ended ++ b.ending.end?.toList } := by
  cases hEnd : b.ending.end? with
  | none =>
    -- a process that hangs never ends, and the run makes no move
    refine h.stay fun r hFollows => ?_
    rw [Option.toList_none, List.append_nil]
    exact (hFollows.setProgress hBehaviour .ended).letGo
  | some how =>
    have hAllows : p.Allows (.processEnds number how) := by
      show (p.processes[number]?).bind (·.ending.end?) = some how
      rw [hBehaviour, Option.bind_some, hEnd]
    refine h.step hAllows fun r hFollows => ?_
    -- any other one leaves those that run and joins the end of those that have ended
    have hRunning := hFollows.running number List.mem_cons_self
    have hSet := hFollows.setProgress hBehaviour .ended
    obtain ⟨hApart, hNodup⟩ := List.nodup_cons.mp hFollows.nodup
    refine ⟨_, .processEnds how hRunning,
      { hSet with ended := ?_, nodup := hNodup, running := ?_, count := ?_ }⟩
    · rw [List.map_append, hFollows.ended]
      rfl
    · intro n hMem
      have hNe : n ≠ number := by
        rintro rfl
        exact hApart hMem
      exact (List.mem_erase_of_ne hNe).mpr (hFollows.running n (List.mem_cons_of_mem _ hMem))
    · have hLess := Run.length_erase_succ hRunning
      have hCount := hFollows.count
      show (r.running.erase number).length + (r.ended ++ [(number, how)]).length + t.joined = _
      rw [List.length_append, List.length_singleton]
      omega

theorem Reached.finish (h : Reached p [number] t) (hBehaviour : p.processes[number]? = some b) :
    Reached p [] (t.finish number b) := by
  have hCancel : Reached p [number] (if b.cancels then t.cancel else t) := by
    split
    · next hCancels => exact h.cancel (Or.inr ⟨b, List.mem_of_getElem? hBehaviour, hCancels⟩)
    · exact h
  rw [Timeline.finish]
  cases b.ending.mark? with
  | none => exact hCancel.ends hBehaviour
  | some mark => exact (hCancel.note b mark).ends hBehaviour

theorem Reached.afterDelay (h : Reached p [number] t) (hBehaviour : p.processes[number]? = some b) :
    Reached p [] (t.afterDelay number b) := by
  rw [Timeline.afterDelay]
  split
  · exact h.finish hBehaviour
  · split
    · exact (h.note b .cancelled).finish hBehaviour
    · exact h.stay fun _ hFollows => hFollows.suspend hBehaviour .listening nofun

theorem Reached.resume (h : Reached p [number] t) (hBehaviour : p.processes[number]? = some b)
    (progress : Progress) : Reached p [] (t.resume number b progress) := by
  cases progress with
  | created =>
    have hStart := h.note b .start
    rw [Timeline.resume]
    split
    · exact hStart.afterDelay hBehaviour
    · split
      · exact (hStart.note b .cancelled).afterDelay hBehaviour
      · -- it goes to sleep, until a time that is still to come
        refine hStart.stay fun _ hFollows => hFollows.suspend hBehaviour _ ?_
        rintro ms ⟨⟩
        exact Nat.le_add_right _ _
  | delayed due =>
    rw [Timeline.resume]
    split
    · exact (h.note b .cancelled).afterDelay hBehaviour
    · exact h.afterDelay hBehaviour
  | listening => exact (h.note b .cancelled).finish hBehaviour
  | ended => exact h.stay fun _ hFollows => hFollows.letGo

/-! ## What happens next -/

/-- The next process that can go on is taken in hand. -/
theorem Reached.pick (h : Reached p [] t) {ready : List Nat} (hReady : t.ready = number :: ready) :
    Reached p [number] { t with ready } := by
  refine h.stay fun r hFollows => ?_
  have hNodup := hFollows.nodup
  have hRunning := hFollows.running
  rw [hReady] at hNodup hRunning
  exact { hFollows with nodup := hNodup, running := hRunning }

theorem Reached.join (h : Reached p [] t) {how : End} {ended : List End} (hEnded : t.ended = how :: ended) :
    Reached p [] { t with supervisor := t.supervisor.join how, ended, joined := t.joined + 1 } := by
  refine h.step (m := .join) trivial fun r hFollows => ?_
  have hQueue := hFollows.ended
  rw [hEnded] at hQueue
  obtain ⟨⟨number, how'⟩, rest, hRest, hHow, hTail⟩ := List.map_eq_cons_iff.mp hQueue
  obtain rfl : how' = how := hHow
  refine ⟨_, .join hRest, { hFollows with supervisor := ?_, ended := hTail, count := ?_ }⟩
  · rw [hFollows.supervisor]
  · have hCount := hFollows.count
    rw [hRest, List.length_cons] at hCount
    show r.running.length + rest.length + (t.joined + 1) = p.processes.length
    omega

/-- Time goes on only until the first wait is over. -/
theorem Follows.nextTime?_le (h : Follows p hand t r) {now : Nat} (hNext : t.nextTime? = some now) :
    t.now ≤ now ∧
    (∀ n ∈ t.waiting, ∀ {b ms}, t.processes[n]? = some (b, .delayed ms) → now ≤ ms) ∧
    ∀ {ms}, t.cancelAt = some ms → now ≤ ms := by
  obtain ⟨hMem, hLeast⟩ := List.min?_eq_some_iff.mp hNext
  refine ⟨?_, ?_, ?_⟩
  · -- nothing that is waited for lies in the past
    rcases List.mem_append.mp hMem with hMem | hMem
    · obtain ⟨n, hWaiting, hDue⟩ := List.mem_filterMap.mp hMem
      split at hDue
      · next ms hProgress =>
        obtain ⟨⟨b, _⟩, hGet, rfl⟩ := Option.map_eq_some_iff.mp hProgress
        cases hDue
        exact h.due n hWaiting hGet
      · cases hDue
    · exact (h.outside (Option.mem_toList.mp hMem)).2
  · intro n hWaiting b ms hGet
    refine hLeast ms (List.mem_append_left _ (List.mem_filterMap.mpr ⟨n, hWaiting, ?_⟩))
    rw [hGet]
    rfl
  · intro ms hAt
    exact hLeast ms (List.mem_append_right _ (Option.mem_toList.mpr hAt))

theorem Reached.wait (h : Reached p [] t) (hEnded : t.ended = []) (hJoined : t.joined ≠ t.processes.length)
    {now : Nat} (hNext : t.nextTime? = some now) : Reached p [] { t with now } := by
  refine h.step (m := .wait (now - t.now)) trivial fun r hFollows => ?_
  obtain ⟨hNow, hDue, hOutside⟩ := hFollows.nextTime?_le hNext
  have hQueue : r.ended = [] := List.map_eq_nil_iff.mp (hFollows.ended.trans hEnded)
  have hRunning : r.running ≠ [] := by
    -- something is left to be joined, and it has not ended
    intro hNone
    have hCount := hFollows.count
    rw [hNone, hQueue, ← hFollows.behaviours, List.length_map] at hCount
    exact hJoined (by simpa using hCount)
  refine ⟨_, .idle _ hFollows.stage hQueue hRunning,
    { hFollows with now := ?_, due := hDue, outside := ?_ }⟩
  · show r.now + (now - t.now) = now
    rw [hFollows.now, Nat.add_sub_of_le hNow]
  · intro ms hAt
    exact ⟨(hFollows.outside hAt).1, hOutside hAt⟩

/-- The token is cancelled from outside, and not again. -/
theorem Reached.cancelOutside (h : Reached p [] t) {ms : Nat} (hAt : t.cancelAt = some ms) :
    Reached p [] (Timeline.cancel { t with cancelAt := none }) := by
  have hAllows : p.Allows .cancel := Or.inl (h.cancelAt (by rw [hAt, Option.isSome_some]))
  refine Reached.cancel (h.stay fun r hFollows => ?_) hAllows
  exact { hFollows with outside := nofun }

theorem Reached.advance {t' : Timeline} (h : Reached p [] t) (hNext : t.advance? = some t') :
    Reached p [] t' := by
  unfold Timeline.advance? at hNext
  split at hNext
  -- somebody is ready and goes on; else the next end is joined; else time goes by
  · next number ready hReady =>
    have hPick := h.pick hReady
    dsimp only at hNext
    split at hNext
    · next b progress hProcess =>
      cases hNext
      exact hPick.resume (hPick.behaviour hProcess) progress
    · cases hNext
      exact hPick.stay fun _ hFollows => hFollows.letGo
  · next how ended hReady hEnded =>
    have hJoin := h.join hEnded
    cases hNext
    split
    · exact hJoin.stay fun _ hFollows => hFollows.wake listens
    · exact hJoin
  · next hReady hEnded =>
    split at hNext
    · cases hNext
    · next hJoined =>
      obtain ⟨now, hTime, rfl⟩ := Option.map_eq_some_iff.mp hNext
      have hWake := (h.wait hEnded hJoined hTime).stay fun _ hFollows => hFollows.wake (isDue now)
      dsimp only
      split
      · next hAt => exact hWake.cancelOutside hAt
      · exact hWake

theorem Reached.advanceAll (fuel : Nat) (h : Reached p [] t) : Reached p [] (advanceAll fuel t) := by
  induction fuel generalizing t with
  | zero => exact h
  | succ fuel ih =>
    rw [Timeline.advanceAll]
    split
    · exact h
    · next hNext => exact ih (h.advance hNext)

/-- When all has been joined, a run has come so far too. -/
theorem run?_reached {t : Timeline} (h : run? p.processes p.cancelAt = some t) :
    Reached p [] t ∧ t.joined = p.processes.length := by
  unfold run? at h
  dsimp only at h
  obtain ⟨hJoined, rfl⟩ := Option.ite_some_none_eq_some.mp h
  exact ⟨(Reached.start p).advanceAll _, hJoined⟩

end Timeline

/-! ## Closers -/

theorem foldl_max_le_iff (f : Behaviour → Nat) (closers : List Behaviour) (ms n : Nat) :
    closers.foldl (fun ms b => max ms (f b)) ms ≤ n ↔ ms ≤ n ∧ ∀ b ∈ closers, f b ≤ n := by
  induction closers generalizing ms with
  | nil => simp
  | cons b closers ih => rw [List.foldl_cons, ih, Nat.max_le, List.forall_mem_cons, and_assoc]

theorem closingMs_le_iff (timeoutMs : Nat) (closers : List Behaviour) (n : Nat) :
    closingMs timeoutMs closers ≤ n ↔
      ∀ b ∈ closers, min timeoutMs (b.closingMs?.getD timeoutMs) ≤ n := by
  rw [closingMs, foldl_max_le_iff]
  exact and_iff_right (Nat.zero_le n)

theorem closingMs_le (timeoutMs : Nat) (closers : List Behaviour) :
    closingMs timeoutMs closers ≤ timeoutMs :=
  (closingMs_le_iff timeoutMs closers timeoutMs).mpr fun _ _ => Nat.min_le_left _ _

/-- Whoever does not hang comes to an end. -/
theorem Ending.exists_end? {ending : Ending} (h : ending ≠ .hang) : ∃ how, ending.end? = some how := by
  cases ending with
  | ok => exact ⟨_, rfl⟩
  | error cause => exact ⟨_, rfl⟩
  | panic => exact ⟨_, rfl⟩
  | hang => exact absurd rfl h

/-- A closer that hangs takes all the time. -/
theorem closingMs_of_hang {timeoutMs : Nat} {closers : List Behaviour} {b : Behaviour} (hMem : b ∈ closers)
    (hHang : b.ending = .hang) : closingMs timeoutMs closers = timeoutMs := by
  have hLe := (closingMs_le_iff timeoutMs closers _).mp (Nat.le_refl _) b hMem
  rw [Behaviour.closingMs?, if_pos hHang, Option.getD_none, Nat.min_self] at hLe
  exact Nat.le_antisymm (closingMs_le timeoutMs closers) hLe

namespace Plan

variable {p : Plan} {r : Run}

theorem getElem?_calls {number : Nat} (h : number < p.closers.length) :
    p.calls[number]? = some (.handsBack 0) := by
  rw [calls, List.getElem?_map, List.getElem?_eq_getElem h]
  rfl

/-- The closers are called one after the other, which takes no time. -/
theorem leads_called {number : Nat} (hClosers : r.closers = p.calls) (hNumber : number ≤ p.closers.length)
    (hStage : r.stage = r.callFrom r.now number (List.range number)) :
    p.Leads r { r with stage := .closing r.now (List.range p.closers.length) } := by
  have hLength : r.closers.length = p.closers.length := by rw [hClosers, calls, List.length_map]
  -- by induction on the calls that are left, none of which takes time
  induction hLeft : p.closers.length - number generalizing r number with
  | zero =>
    obtain rfl : number = p.closers.length := by omega
    have hNone : r.callFrom r.now p.closers.length (List.range p.closers.length) = .closing r.now _ :=
      if_neg (by omega)
    rw [← hNone, ← hStage]
    exact .refl p r
  | succ left ih =>
    have hCalling : r.stage = .calling r.now r.now number (List.range number) :=
      hStage.trans (if_pos (by omega))
    have hCall : r.closers[number]? = some (.handsBack 0) := by
      rw [hClosers]
      exact getElem?_calls (by omega)
    have hStep := Run.Step.handsBack hCalling hCall (Nat.add_zero _).symm
    rw [← List.range_succ] at hStep
    exact (Leads.of_step (m := .called) trivial hStep).trans
      (ih hClosers (by omega) rfl hLength (by omega))

/-- The closers end one after the other. -/
theorem leads_closersEnd {since : Nat} {waiting : List Nat} (hStage : r.stage = .closing since waiting)
    (hAllows : ∀ number ∈ waiting, ∃ how, p.Allows (.closerEnds number how)) :
    p.Leads r { r with stage := .closing since [] } := by
  induction waiting generalizing r with
  | nil =>
    rw [← hStage]
    exact .refl p r
  | cons number waiting ih =>
    obtain ⟨how, hAllowed⟩ := hAllows number List.mem_cons_self
    have hStep := Run.Step.closerEnds how hStage List.mem_cons_self
    rw [List.erase_cons_head] at hStep
    exact (Leads.of_step hAllowed hStep).trans
      (ih rfl fun n hMem => hAllows n (List.mem_cons_of_mem _ hMem))

/-- When the closers' time has gone by, the run may return. -/
theorem leads_closed (hStage : r.stage = .closing r.now (List.range p.closers.length))
    (hTimeout : r.timeoutMs = p.timeoutMs) :
    ∃ waiting, p.Leads r { r with
        now := r.now + closingMs p.timeoutMs p.closers, stage := .closing r.now waiting } ∧
      (waiting = [] ∨ r.now + p.timeoutMs ≤ r.now + closingMs p.timeoutMs p.closers) := by
  by_cases hNone : p.closers = []
  · refine ⟨[], ?_, Or.inl rfl⟩
    rw [hNone] at hStage ⊢
    show p.Leads r { r with stage := .closing r.now [] }
    rw [show Stage.closing r.now [] = r.stage from hStage.symm]
    exact .refl p r
  · have hWaiting : List.range p.closers.length ≠ [] := by
      simpa using hNone
    have hLe := closingMs_le p.timeoutMs p.closers
    have hWait := Leads.of_step (p := p) (m := .wait (closingMs p.timeoutMs p.closers)) trivial
      (.wait _ hStage hWaiting (hTimeout ▸ Nat.add_le_add_left hLe r.now))
    -- either the whole timeout goes by, or every closer ends before it is over
    by_cases hOver : closingMs p.timeoutMs p.closers = p.timeoutMs
    · refine ⟨List.range p.closers.length, ?_, Or.inr (Nat.le_of_eq (congrArg (r.now + ·) hOver.symm))⟩
      rw [← hStage]
      exact hWait
    · -- no closer hangs
      refine ⟨[], hWait.trans (leads_closersEnd hStage ?_), Or.inl rfl⟩
      intro number hMem
      have hLt : number < p.closers.length := List.mem_range.mp hMem
      have hEnds : p.closers[number].ending ≠ .hang := by
        intro hHang
        exact hOver (closingMs_of_hang (List.getElem_mem hLt) hHang)
      obtain ⟨how, hHow⟩ := Ending.exists_end? hEnds
      refine ⟨how, ?_⟩
      show (p.closers[number]?).bind (·.ending.end?) = some how
      rw [List.getElem?_eq_getElem hLt, Option.bind_some, hHow]

/-- Someone cancels the token in the end, or nobody does. -/
theorem leads_cancelled (late : Bool) (hLate : late → p.cancelAt.isSome) :
    p.Leads r { r with supervisor := r.supervisor.cancelLate late } := by
  cases late with
  | false => exact .refl p r
  | true => exact .of_step (m := .cancel) (Or.inl (hLate rfl)) .cancel

/-- The run returns when the closers' time has gone by; someone may cancel the token meanwhile. -/
theorem leads_returned (hStage : r.stage = .closing r.now (List.range p.closers.length))
    (hTimeout : r.timeoutMs = p.timeoutMs) (late : Bool) (hLate : late → p.cancelAt.isSome) :
    p.Leads r { r with
      now := r.now + closingMs p.timeoutMs p.closers
      stage := .returned
      supervisor := r.supervisor.cancelLate late } := by
  obtain ⟨waiting, hClosed, hDone⟩ := leads_closed hStage hTimeout
  refine (hClosed.trans (leads_cancelled late hLate)).trans (.of_step (m := .leave) trivial (.leave rfl ?_))
  rwa [hTimeout]

/-- When all has been joined, the closers can start. -/
theorem leads_closing {t : Timeline} (h : Timeline.Reached p [] t) (hJoined : t.joined = p.processes.length) :
    ∃ r, p.Leads p.start r ∧ r.now = t.now ∧ r.supervisor = t.supervisor ∧ r.timeoutMs = p.timeoutMs ∧
      r.stage = .closing r.now (List.range p.closers.length) := by
  obtain ⟨r, hLeads, hFollows⟩ := h
  obtain ⟨hClosers, hTimeout⟩ := hLeads.given
  -- nothing runs and nothing has ended without being joined, for all have been counted
  have hCount := hFollows.count
  have hRunning : r.running = [] := List.eq_nil_of_length_eq_zero (by omega)
  have hEnded : r.ended = [] := List.eq_nil_of_length_eq_zero (by omega)
  have hClose := Leads.of_step (p := p) (m := .close) trivial (.close hFollows.stage hRunning hEnded)
  have hCalled := leads_called (r := { r with stage := r.callFrom r.now 0 [] }) hClosers (Nat.zero_le _) rfl
  exact ⟨_, hLeads.trans (hClose.trans hCalled), hFollows.now, hFollows.supervisor, hTimeout, rfl⟩

end Plan

/-! ## Reports -/

/-- What is reported of processes and closers whose behaviour is laid down is what a run of the machine
gives, with the ends that are laid down. -/
theorem report?_isRun {processes closers : List Behaviour} {timeoutMs : Nat} {cancelAt : Option Nat}
    {report : Report} (h : report? processes closers timeoutMs cancelAt = some report) :
    ∃ moves r, (∀ m ∈ moves, (Plan.mk processes closers timeoutMs cancelAt).Allows m) ∧
      (Plan.mk processes closers timeoutMs cancelAt).start.play? moves = some r ∧
      r.result? = some report.result ∧ r.now = report.elapsedMs ∧
      r.supervisor.cancelled = report.cancelled := by
  obtain ⟨t, hRun, rfl⟩ := Option.map_eq_some_iff.mp h
  let p : Plan := ⟨processes, closers, timeoutMs, cancelAt⟩
  obtain ⟨hReached, hJoined⟩ := Timeline.run?_reached (p := p) hRun
  have hAt : t.cancelAt.isSome → p.cancelAt.isSome := hReached.cancelAt
  obtain ⟨r, hLeads, hNow, hSupervisor, hTimeout, hStage⟩ := Plan.leads_closing hReached hJoined
  have hLate : t.cancelAt.any (· ≤ t.now + closingMs timeoutMs closers) → p.cancelAt.isSome :=
    fun hAny => hAt (Option.isSome_of_any hAny)
  obtain ⟨moves, hAll, hPlay⟩ := hLeads.trans (Plan.leads_returned hStage hTimeout _ hLate)
  refine ⟨moves, _, hAll, hPlay, ?_, ?_, ?_⟩
  · rw [Run.result?, if_pos rfl, hSupervisor]
    exact congrArg some (t.supervisor.result_cancelLate _)
  · exact congrArg (· + closingMs timeoutMs closers) hNow
  · rw [hSupervisor]
    exact t.supervisor.cancelled_cancelLate _

/-- A run that gives something has returned. -/
theorem Run.stage_of_result? {r : Run} {result : Except ErrorChain Unit} (h : r.result? = some result) :
    r.stage = .returned := by
  unfold Run.result? at h
  exact (Option.ite_some_none_eq_some.mp h).1

/-- A process has ended in some moves as it was laid down. -/
theorem Plan.ending_of_mem {p : Plan} {moves : List Move} (hAll : ∀ m ∈ moves, p.Allows m) {number : Nat}
    {how : End} (hMem : (number, how) ∈ endings moves) :
    ∃ b, p.processes[number]? = some b ∧ b.ending.end? = some how := by
  obtain ⟨m, hMove, hEnding⟩ := List.mem_filterMap.mp hMem
  cases m <;> cases hEnding
  exact Option.bind_eq_some_iff.mp (hAll _ hMove)

theorem Ending.end?_eq_error_iff {ending : Ending} {cause : ErrorChain} :
    ending.end? = some (.error cause) ↔ ending = .error cause := by
  cases ending <;> simp [Ending.end?]

theorem Ending.end?_eq_panic_iff {ending : Ending} : ending.end? = some .panic ↔ ending = .panic := by
  cases ending <;> simp [Ending.end?]

/-- Where only failures cancel the token and nothing panics, the report is an error exactly if a process is
to fail. -/
theorem report?_isOk_iff {processes closers : List Behaviour} {timeoutMs : Nat} {report : Report}
    (h : report? processes closers timeoutMs none = some report)
    (hAlone : ∀ b ∈ processes, b.cancels = false) (hPanic : ∀ b ∈ processes, b.ending ≠ .panic) :
    report.result = .ok () ↔ ∀ b ∈ processes, ∀ cause, b.ending ≠ .error cause := by
  obtain ⟨moves, r, hAll, hPlay, hResult, -, -⟩ := report?_isRun h
  have hStage := Run.stage_of_result? hResult
  have hTracks := Run.Tracks.play hPlay
  have hJoined := hTracks.joined_eq_endings (by simp [hStage])
  have hCancel : Move.cancel ∉ moves := by
    intro hMem
    rcases hAll _ hMem with hOutside | ⟨b, hProcess, hCancels⟩
    · cases hOutside
    · exact absurd hCancels (by simp [hAlone b hProcess])
  have hCalm : ∀ e ∈ joined moves, e.2 ≠ .panic := by
    rintro ⟨number, how⟩ hMem rfl
    obtain ⟨b, hProcess, hEnd⟩ := Plan.ending_of_mem hAll (hJoined ▸ hMem)
    exact hPanic b (List.mem_of_getElem? hProcess) (Ending.end?_eq_panic_iff.mp hEnd)
  -- then the report is the first error of all
  have hFirst : ∀ cause, report.result = .error cause ↔ firstError? (endings moves) = some cause := by
    intro cause
    rw [← hJoined, ← Run.firstError_iff_of_alone hPlay hCancel hCalm, ← Run.result?_eq_error_iff hStage,
      hResult, Option.some_inj]
  constructor
  · intro hOk b hProcess cause hEnding
    obtain ⟨number, hLt, rfl⟩ := List.getElem_of_mem hProcess
    have hEnded := (hTracks.endings_perm (by simp [hStage])).mem_iff.mpr (List.mem_range.mpr hLt)
    obtain ⟨⟨_, how⟩, hMem, rfl⟩ := List.mem_map.mp hEnded
    -- it has ended with that error, so there is a first one
    obtain ⟨b, hSame, hEnd⟩ := Plan.ending_of_mem hAll hMem
    obtain rfl : processes[_] = b := Option.some.inj ((List.getElem?_eq_getElem hLt).symm.trans hSame)
    rw [hEnding] at hEnd
    cases hEnd
    obtain ⟨cause', hSome⟩ := Option.ne_none_iff_exists'.mp (firstError?_ne_none hMem)
    have hError := (hFirst cause').mpr hSome
    rw [hOk] at hError
    cases hError
  · intro hNone
    cases hReport : report.result with
    | ok => rfl
    | error cause =>
      obtain ⟨number, hMem⟩ := exists_mem_of_firstError? ((hFirst cause).mp hReport)
      obtain ⟨b, hProcess, hEnd⟩ := Plan.ending_of_mem hAll hMem
      exact absurd (Ending.end?_eq_error_iff.mp hEnd) (hNone b (List.mem_of_getElem? hProcess) cause)

/-- A process that fails when it is told to stop: with a cancellation from outside the report is no error. -/
example : (report? [⟨"worker", 0, false, true, false, .error ⟨"late", []⟩⟩] [] 0 (some 50)).map (·.result) =
    some (.ok ()) := by
  rfl

end Lorawan.Supervisor
