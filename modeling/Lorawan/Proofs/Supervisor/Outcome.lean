import Lorawan.Proofs.Supervisor.Course

/-!
# What a run reports

A run reports the error of the first process that has failed, if it joins that process before anybody has
cancelled the token, and otherwise no error at all (`Run.reports_first_error`).  So a process that panics, or
one that fails when the token is cancelled already, leaves a run that returns `ok`.

* **The token** is cancelled when someone else does so or when a failure is joined (`Run.cancelled_iff`).
* **The report**: `JoinsFirstError` finds the one move that decides it, in the history of the run alone
  (`Run.firstError_iff`).
-/

namespace Lorawan

/-- The error with which a process ends, if it ends so. -/
def End.error? : End → Option ErrorChain
  | .error cause => some cause
  | .ok | .panic => none

theorem End.isFailure_eq_false_iff {how : End} : how.isFailure = false ↔ how = .ok := by
  cases how <;> simp [isFailure]

namespace Supervisor

/-- The first error of some processes that have ended. -/
def firstError? (ends : List (Nat × End)) : Option ErrorChain := ends.findSome? (·.2.error?)

theorem firstError?_append (ends more : List (Nat × End)) :
    firstError? (ends ++ more) = (firstError? ends).or (firstError? more) := List.findSome?_append

theorem firstError?_of_ok {ends : List (Nat × End)} (h : ∀ e ∈ ends, e.2 = .ok) :
    firstError? ends = none := by
  rw [firstError?, List.findSome?_eq_none_iff]
  intro e hMem
  rw [h e hMem]
  rfl

/-- The first error is one of all. -/
theorem exists_mem_of_firstError? {ends : List (Nat × End)} {cause : ErrorChain}
    (h : firstError? ends = some cause) : ∃ number, (number, .error cause) ∈ ends := by
  obtain ⟨⟨number, how⟩, hMem, hError⟩ := List.exists_of_findSome?_eq_some h
  cases how <;> cases hError
  exact ⟨number, hMem⟩

/-- Where there is an error, there is a first one. -/
theorem firstError?_ne_none {ends : List (Nat × End)} {number : Nat} {cause : ErrorChain}
    (hMem : (number, .error cause) ∈ ends) : firstError? ends ≠ none := by
  intro hNone
  have hError := List.findSome?_eq_none_iff.mp hNone _ hMem
  cases hError

/-- A process that ends well leaves the token alone; a failure cancels it. -/
theorem cancelled_join (s : Supervisor) (how : End) :
    (s.join how).cancelled = (s.cancelled || how.isFailure) := by
  cases how with
  | ok => exact (Bool.or_false _).symm
  | panic => exact (Bool.or_true _).symm
  | error cause =>
    -- an error that comes after a cancellation changes nothing any more
    cases hCancelled : s.cancelled <;> simp [join, hCancelled, End.isFailure]

/-! ## The token -/

namespace Run

variable {processes timeoutMs : Nat} {closers : List Call} {moves : List Move} {r r' : Run} {m : Move}

/-- What a move has to do with the supervisor: it joins a process, cancels the token, or neither. -/
theorem Step.supervisor_cases (h : r.Step m r') :
    (∃ number how rest, m = .join ∧ r.ended = (number, how) :: rest ∧
      r'.supervisor = r.supervisor.join how) ∨
    (m = .cancel ∧ r'.supervisor = r.supervisor.cancel) ∨
    (m ≠ .join ∧ m ≠ .cancel ∧ r'.supervisor = r.supervisor) := by
  cases h with
  | join hEnded => exact Or.inl ⟨_, _, _, rfl, hEnded, rfl⟩
  | cancel => exact Or.inr (Or.inl ⟨rfl, rfl⟩)
  | idle | waitInCall | wait | processEnds | close | handsBack | panics | closerEndsInCall | closerEnds
    | leave => exact Or.inr (Or.inr ⟨nofun, nofun, rfl⟩)

/-- The token is cancelled when someone else has done so, or when a process was joined that had failed. -/
theorem cancelled_iff (hPlay : (Run.start processes closers timeoutMs).play? moves = some r) :
    r.supervisor.cancelled = true ↔ .cancel ∈ moves ∨ ∃ e ∈ joined moves, e.2.isFailure = true := by
  refine play_induction (P := fun moves r =>
    r.supervisor.cancelled = true ↔ .cancel ∈ moves ∨ ∃ e ∈ joined moves, e.2.isFailure = true) ?_ ?_ hPlay
  · exact ⟨nofun, by simp [joined, endings]⟩
  · intro moves r m r' hPlay ih hStep
    have hTracks := Tracks.play hPlay
    rcases hStep.supervisor_cases with ⟨number, how, rest, rfl, hEnded, hKnown⟩ | ⟨rfl, hKnown⟩ |
      ⟨hJoin, hCancel, hKnown⟩
    · rw [hKnown, cancelled_join, Bool.or_eq_true, ih, hTracks.joined_join hEnded]
      simp [or_and_right, exists_or, or_assoc]
    · rw [hKnown]
      simp [cancel]
    · rw [hKnown, ih, hTracks.joined_keep hJoin, List.mem_append, List.mem_singleton, or_iff_left hCancel.symm]

/-- While the token is not cancelled, all that was joined has ended well. -/
theorem calm_iff (hPlay : (Run.start processes closers timeoutMs).play? moves = some r) :
    r.supervisor.cancelled = false ↔ .cancel ∉ moves ∧ ∀ e ∈ joined moves, e.2 = .ok := by
  rw [← Bool.not_eq_true, cancelled_iff hPlay, not_or]
  simp only [not_exists, not_and, Bool.not_eq_true, End.isFailure_eq_false_iff]

end Run

/-! ## The move that decides -/

/-- Whether a process that has failed with this error is joined after nothing but good ends, and before
anybody else has cancelled the token. -/
def JoinsFirstError (moves : List Move) (cause : ErrorChain) : Prop :=
  ∃ before after number, moves = before ++ .join :: after ∧
    (endings before)[before.count .join]? = some (number, .error cause) ∧
    (∀ e ∈ joined before, e.2 = .ok) ∧ .cancel ∉ before

section JoinsFirstError

variable {moves : List Move} {cause : ErrorChain}

theorem joinsFirstError_concat (m : Move) :
    JoinsFirstError (moves ++ [m]) cause ↔ JoinsFirstError moves cause ∨
      m = .join ∧ (∃ number, (endings moves)[moves.count .join]? = some (number, .error cause)) ∧
        (∀ e ∈ joined moves, e.2 = .ok) ∧ .cancel ∉ moves := by
  constructor
  · rintro ⟨before, after, number, hMoves, hNext, hCalm, hAlone⟩
    rcases List.eq_nil_or_concat after with rfl | ⟨after, last, rfl⟩
    · -- it is the last move
      obtain ⟨rfl, hLast⟩ := List.append_inj' hMoves rfl
      exact Or.inr ⟨List.singleton_inj.mp hLast, ⟨number, hNext⟩, hCalm, hAlone⟩
    · rw [List.concat_eq_append, ← List.cons_append, ← List.append_assoc] at hMoves
      obtain ⟨rfl, -⟩ := List.append_inj' hMoves rfl
      exact Or.inl ⟨before, after, number, rfl, hNext, hCalm, hAlone⟩
  · rintro (⟨before, after, number, rfl, h⟩ | ⟨rfl, ⟨number, hNext⟩, hCalm, hAlone⟩)
    · exact ⟨before, after ++ [m], number, by simp, h⟩
    · exact ⟨moves, [], number, rfl, hNext, hCalm, hAlone⟩

/-- That process has been joined, and all that were joined before it had ended well. -/
theorem JoinsFirstError.exists_joined (h : JoinsFirstError moves cause) :
    ∃ front number back, (∀ e ∈ front, e.2 = .ok) ∧
      joined moves = front ++ (number, .error cause) :: back := by
  obtain ⟨before, after, number, rfl, hNext, hCalm, -⟩ := h
  obtain ⟨hLt, hGet⟩ := List.getElem?_eq_some_iff.mp hNext
  have hLength : (joined before).length = before.count .join :=
    List.length_take_of_le (Nat.le_of_lt hLt)
  -- the end that is joined stands in the history where as many have been joined before it
  have hEndings : endings (before ++ .join :: after) = joined before ++
      (number, .error cause) :: ((endings before).drop (before.count .join + 1) ++ endings after) := by
    rw [endings, List.filterMap_append, ← List.cons_append, ← List.append_assoc, joined, ← hGet,
      ← List.drop_eq_getElem_cons hLt, List.take_append_drop]
    rfl
  have hCount : (before ++ .join :: after).count .join =
      (joined before).length + (after.count .join + 1) := by
    rw [List.count_append, List.count_cons_self, hLength]
  refine ⟨joined before, number,
    ((endings before).drop (before.count .join + 1) ++ endings after).take (after.count .join), hCalm, ?_⟩
  show (endings (before ++ .join :: after)).take _ = _
  rw [hEndings, hCount, List.take_length_add_append, List.take_succ_cons]

theorem JoinsFirstError.firstError?_joined (h : JoinsFirstError moves cause) :
    firstError? (joined moves) = some cause := by
  obtain ⟨front, number, back, hFront, hJoined⟩ := h.exists_joined
  rw [hJoined, firstError?_append, firstError?_of_ok hFront]
  rfl

/-- What was not joined yet comes after what was. -/
theorem JoinsFirstError.firstError?_endings (h : JoinsFirstError moves cause) :
    firstError? (endings moves) = some cause := by
  rw [← List.take_append_drop (moves.count .join) (endings moves), firstError?_append]
  show (firstError? (joined moves)).or _ = _
  rw [h.firstError?_joined]
  rfl

end JoinsFirstError

namespace Run

variable {processes timeoutMs : Nat} {closers : List Call} {moves : List Move} {r : Run}

/-- The error to be reported is that of the first process that has failed, if it was joined in time. -/
theorem firstError_iff (hPlay : (Run.start processes closers timeoutMs).play? moves = some r)
    (cause : ErrorChain) : r.supervisor.firstError = some cause ↔ JoinsFirstError moves cause := by
  refine play_induction (P := fun moves r =>
    r.supervisor.firstError = some cause ↔ JoinsFirstError moves cause) ?_ ?_ hPlay
  · constructor
    · nofun
    · rintro ⟨before, after, _, hMoves, -⟩
      cases before <;> cases hMoves
  · intro moves r m r' hPlay ih hStep
    rw [joinsFirstError_concat, ← ih]
    rcases hStep.supervisor_cases with ⟨number, how, rest, rfl, hEnded, hKnown⟩ | ⟨rfl, hKnown⟩ |
      ⟨hJoin, -, hKnown⟩
    · rw [hKnown, (Tracks.play hPlay).getElem?_endings hEnded]
      cases how with
      | ok => simp [Supervisor.join]
      | panic => simp [Supervisor.join, Supervisor.cancel]
      | error cause' =>
        cases hCancelled : r.supervisor.cancelled with
        | true =>
          have hCalm : ¬(.cancel ∉ moves ∧ ∀ e ∈ joined moves, e.2 = .ok) := by
            rw [← calm_iff hPlay, hCancelled]
            exact Bool.noConfusion
          rw [show r.supervisor.join (.error cause') = r.supervisor from if_pos hCancelled]
          exact (or_iff_left fun h => hCalm h.2.2.symm).symm
        | false =>
          have hCalm := (calm_iff hPlay).mp hCancelled
          -- there is no earlier error, for it would have cancelled the token
          have hNone : r.supervisor.firstError ≠ some cause := by
            intro hCause
            obtain ⟨front, number, back, -, hJoined⟩ := (ih.mp hCause).exists_joined
            exact nomatch hCalm.2 (number, .error cause) (by simp [hJoined])
          rw [show r.supervisor.join (.error cause') = ⟨true, some cause'⟩ from if_neg (by simp [hCancelled])]
          constructor
          · intro hCause
            cases hCause
            exact Or.inr ⟨rfl, ⟨number, rfl⟩, hCalm.2, hCalm.1⟩
          · rintro (hCause | ⟨-, ⟨_, hNext⟩, -⟩)
            · exact absurd hCause hNone
            · cases hNext
              rfl
    · simp [hKnown, Supervisor.cancel]
    · simp [hKnown, hJoin]

/-- Where nobody else cancels the token and nothing panics, an error has cancelled it. -/
theorem firstError_of_cancelled (hPlay : (Run.start processes closers timeoutMs).play? moves = some r)
    (hAlone : .cancel ∉ moves) (hPanic : ∀ e ∈ joined moves, e.2 ≠ .panic)
    (hCancelled : r.supervisor.cancelled = true) : ∃ cause, r.supervisor.firstError = some cause := by
  revert hAlone hPanic hCancelled
  refine play_induction (P := fun moves r => .cancel ∉ moves → (∀ e ∈ joined moves, e.2 ≠ .panic) →
    r.supervisor.cancelled = true → ∃ cause, r.supervisor.firstError = some cause) ?_ ?_ hPlay
  · intro _ _ hCancelled
    cases hCancelled
  · intro moves r m r' hPlay ih hStep hAlone hPanic
    have hTracks := Tracks.play hPlay
    have hBefore : Move.cancel ∉ moves := fun hMem => hAlone (List.mem_append_left _ hMem)
    rcases hStep.supervisor_cases with ⟨number, how, rest, rfl, hEnded, hKnown⟩ | ⟨rfl, -⟩ |
      ⟨hJoin, -, hKnown⟩
    · rw [hTracks.joined_join hEnded] at hPanic
      have ih := ih hBefore fun e hMem => hPanic e (List.mem_append_left _ hMem)
      rw [hKnown]
      -- a good end changes nothing, and the first error is kept when the token is still untouched
      cases how with
      | ok => exact ih
      | error cause =>
        intro hCancelled
        cases hCalm : r.supervisor.cancelled with
        | true => simpa [Supervisor.join, hCalm] using ih hCalm
        | false => exact ⟨cause, by simp [Supervisor.join, hCalm]⟩
      | panic => exact absurd rfl (hPanic (number, .panic) (by simp))
    · exact absurd (List.mem_append_right _ (List.mem_singleton_self _)) hAlone
    · rw [hTracks.joined_keep hJoin] at hPanic
      rw [hKnown]
      exact ih hBefore hPanic

/-- Then the error to be reported is the first of all that were joined. -/
theorem firstError_iff_of_alone (hPlay : (Run.start processes closers timeoutMs).play? moves = some r)
    (hAlone : .cancel ∉ moves) (hPanic : ∀ e ∈ joined moves, e.2 ≠ .panic) (cause : ErrorChain) :
    r.supervisor.firstError = some cause ↔ firstError? (joined moves) = some cause := by
  constructor
  · intro hCause
    exact ((firstError_iff hPlay cause).mp hCause).firstError?_joined
  · intro hFirst
    obtain ⟨number, hMem⟩ := exists_mem_of_firstError? hFirst
    have hCancelled := (cancelled_iff hPlay).mpr (Or.inr ⟨_, hMem, rfl⟩)
    obtain ⟨cause', hCause⟩ := firstError_of_cancelled hPlay hAlone hPanic hCancelled
    rw [hCause, ← ((firstError_iff hPlay cause').mp hCause).firstError?_joined, hFirst]

/-! ## The report -/

theorem result?_eq_error_iff (hStage : r.stage = .returned) (cause : ErrorChain) :
    r.result? = some (.error cause) ↔ r.supervisor.firstError = some cause := by
  rw [result?, if_pos hStage, Option.some_inj, Supervisor.result]
  cases r.supervisor.firstError with
  | none => exact ⟨nofun, nofun⟩
  | some first => rw [Except.error.injEq, Option.some_inj]

theorem result?_eq_ok_iff (hStage : r.stage = .returned) :
    r.result? = some (.ok ()) ↔ r.supervisor.firstError = none := by
  rw [result?, if_pos hStage, Option.some_inj, Supervisor.result]
  cases r.supervisor.firstError <;> simp

/-- Whatever happens in a run: when all processes have ended it can still return by itself, if the calls of
the closers hand something back, and only so many moves lead there.  It reports an error exactly if the
first process that has failed did so with this error and was joined before anybody else had cancelled the
token; every other failure, be it a panic or an error that comes later, is not reported.  So where nobody
else cancels the token and nothing panics, the report is the first error exactly if there is one. -/
theorem reports_first_error (hPlay : (Run.start processes closers timeoutMs).play? moves = some r) :
    (r.running = [] → (∀ c ∈ closers, c.returns) →
      r.CanReturnBy (r.now + max timeoutMs (callingMs closers))) ∧
    moves.countP Move.isProgress ≤ 2 * processes + 2 * closers.length + 2 ∧
    (r.stage = .returned →
      ((endings moves).map Prod.fst).Perm (List.range processes) ∧
      (∀ cause, r.result? = some (.error cause) ↔ JoinsFirstError moves cause) ∧
      (r.result? = some (.ok ()) ↔ ∀ cause, ¬JoinsFirstError moves cause) ∧
      (∀ cause, JoinsFirstError moves cause → firstError? (endings moves) = some cause) ∧
      (.cancel ∉ moves → (∀ e ∈ endings moves, e.2 ≠ .panic) → ∀ cause,
        r.result? = some (.error cause) ↔ firstError? (endings moves) = some cause)) := by
  have hTracks := Tracks.play hPlay
  refine ⟨hTracks.canReturnBy, ?_, ?_⟩
  · have hProgress := progress_le hPlay
    omega
  · intro hStage
    have hOver : r.stage ≠ .supervising := by simp [hStage]
    have hReport := result?_eq_error_iff hStage
    refine ⟨hTracks.endings_perm hOver, fun cause => (hReport cause).trans (firstError_iff hPlay cause), ?_,
      fun _ hJoins => hJoins.firstError?_endings, ?_⟩
    · rw [result?_eq_ok_iff hStage, Option.eq_none_iff_forall_ne_some]
      exact forall_congr' fun cause => not_congr (firstError_iff hPlay cause)
    · intro hAlone hPanic cause
      rw [← hTracks.joined_eq_endings hOver] at hPanic ⊢
      rw [hReport, firstError_iff_of_alone hPlay hAlone hPanic]

theorem reports_first_error_sample :
    let moves : List Move := [.wait 50, .processEnds 1 (.error ⟨"boom", []⟩), .join, .processEnds 0 .ok,
      .join, .close, .called, .wait 30, .closerEnds 0 .ok, .leave]
    ∃ r, (Run.start 2 [.handsBack 0] 100).play? moves = some r ∧ r.stage = .returned ∧
      JoinsFirstError moves ⟨"boom", []⟩ ∧
      r.result? = some (.error ⟨"boom", []⟩) ∧ firstError? (endings moves) = some ⟨"boom", []⟩ := by
  intro moves
  have hJoins : JoinsFirstError moves ⟨"boom", []⟩ :=
    ⟨[.wait 50, .processEnds 1 (.error ⟨"boom", []⟩)], _, 1, rfl, rfl, by decide, by decide⟩
  obtain ⟨-, hReport, -, hFirst, -⟩ := (@reports_first_error 2 100 [.handsBack 0] moves _ rfl).2.2 rfl
  exact ⟨_, rfl, rfl, hJoins, (hReport _).mpr hJoins, hFirst _ hJoins⟩

/-- A process that panics is joined, and another one fails as it is told to stop. -/
example :
    let moves : List Move := [.processEnds 0 .panic, .join, .processEnds 1 (.error ⟨"after", []⟩), .join,
      .close, .leave]
    ((Run.start 2 [] 0).play? moves).bind result? = some (.ok ()) := by
  rfl

end Run

end Supervisor

end Lorawan
