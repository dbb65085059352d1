import Lorawan.Proofs.Ingress.Round
import Lorawan.Proofs.Ingress.Settlement

/-!
# Consumers go on

Whatever the broker and the processor answer, a consumer goes from round to round until it is told to stop.
It then ends without an error, in the middle of a round perhaps, of which it has done the beginning.  It
pauses for a second after every fetch that fails, and never else (`Loop.settles_listed`).

* **Pauses**: `Paced` says that the pauses among some deeds are those after the failed fetches.  This holds
  of every round with the pause after it, hence of a run.
* **Turns**: `Loop.Turn` lists all that an event can do to a loop (`Loop.turn_of_step?`).
* **Accounts**: a loop has done some whole rounds and the beginning of one more (`Loop.Accounts`).  One
  event keeps the account, and so does a run.
* **Phases**: the consumer that is a machine of phases does the same.  Event by event a loop and such a
  consumer go together (`Loop.Mirrors.step`), so both have the same runs (`Loop.mirrors_runs`).
-/

namespace Lorawan.Ingress

open Consumer (verdictOf)

/-! ## Pauses -/

namespace Deed

def isPause : Deed → Bool
  | .paused _ => true
  | _ => false

def isFailedFetch : Deed → Bool
  | .asked (.fetch ..) (.error _) => true
  | _ => false

/-- A deed, and a pause of a second if it is a fetch that failed. -/
def withPause (d : Deed) : List Deed := d :: if d.isFailedFetch then [.paused 1000] else []

/-- A deed that is no pause, and that none comes after. -/
def IsSteady (d : Deed) : Prop := d.isPause = false ∧ d.isFailedFetch = false

theorem isSteady_of_ask? {d : Deed} {c : Config} {batch : List Message} {s : Settlement}
    (h : d.ask? = some (s.ask c batch)) : d.IsSteady := by
  obtain ⟨answer, rfl⟩ := exists_answer_of_ask? h
  clear h
  revert answer
  unfold Settlement.ask
  cases batch[s.number]? with
  | none =>
    intro answer
    exact ⟨rfl, rfl⟩
  | some m =>
    intro answer
    exact ⟨rfl, rfl⟩

end Deed

/-- Whether the pauses among some deeds are those of a second after the fetches that failed. -/
def Paced (deeds : List Deed) : Prop := deeds = (deeds.filter (!·.isPause)).flatMap Deed.withPause

namespace Paced

variable {deeds deeds' : List Deed}

theorem append (h : Paced deeds) (h' : Paced deeds') : Paced (deeds ++ deeds') := by
  unfold Paced at *
  rw [List.filter_append, List.flatMap_append, ← h, ← h']

theorem of_isSteady (h : ∀ d ∈ deeds, d.IsSteady) : Paced deeds := by
  have hAll : deeds.filter (!·.isPause) = deeds := by
    refine List.filter_eq_self.mpr fun d hd => ?_
    rw [(h d hd).1]
    rfl
  have hNone : deeds.flatMap Deed.withPause = deeds.flatMap fun d => [d] := by
    refine List.flatMap_congr fun d hd => ?_
    rw [Deed.withPause, (h d hd).2]
    rfl
  rw [Paced, hAll, hNone, List.flatMap_singleton']

theorem flatMap {α : Type} {xs : List α} {f : α → List Deed} (h : ∀ x ∈ xs, Paced (f x)) :
    Paced (xs.flatMap f) := by
  induction xs with
  | nil => rfl
  | cons x xs ih =>
    rw [List.flatMap_cons]
    exact (h x List.mem_cons_self).append (ih fun y hy => h y (List.mem_cons_of_mem x hy))

end Paced

/-- A round that is over: what was done, and how it has ended. -/
structure Past where
  deeds : List Deed
  result : Except ErrorChain Unit

/-- What was done, with the pause after it if the round has failed. -/
def Past.withPause (x : Past) : List Deed :=
  x.deeds ++ match x.result with
    | .ok _ => []
    | .error _ => [.paused 1000]

variable {c : Config}

/-- A round that does not fail is steady. -/
theorem IsRound.isSteady {deeds : List Deed} (h : IsRound c deeds (.ok ())) :
    ∀ d ∈ deeds, d.IsSteady := by
  cases h with
  | empty => exact List.forall_mem_singleton.mpr ⟨rfl, rfl⟩
  | @settled batch _ result settling hAsks =>
    have hSettling : ∀ d ∈ settling, d.IsSteady := by
      intro d hd
      have hAsk : d.ask? ∈ settling.map Deed.ask? := List.mem_map_of_mem hd
      rw [hAsks] at hAsk
      obtain ⟨s, -, hs⟩ := List.mem_map.mp hAsk
      exact Deed.isSteady_of_ask? hs.symm
    refine List.forall_mem_cons.mpr ⟨⟨rfl, rfl⟩, ?_⟩
    exact List.forall_mem_cons.mpr ⟨⟨rfl, rfl⟩, hSettling⟩

/-- A round that fails has only fetched. -/
theorem IsRound.length_eq_one {deeds : List Deed} {e : ErrorChain} (h : IsRound c deeds (.error e)) :
    deeds.length = 1 := by
  cases h with
  | failed => rfl

/-- A round and the pause after it are paced. -/
theorem IsRound.paced {x : Past} (h : IsRound c x.deeds x.result) : Paced x.withPause := by
  obtain ⟨deeds, result⟩ := x
  cases result with
  | ok u =>
    rw [Past.withPause, List.append_nil]
    exact .of_isSteady h.isSteady
  | error e =>
    cases h with
    | failed => rfl

/-- What a round has done that still asks for something is steady, and the beginning of a way through it. -/
theorem Round.Leads.begins {deeds : List Deed} {a : Ask} {next : a.Answer → Round}
    (h : (whole c).Leads deeds (.ask a next)) :
    (∃ rest result, IsRound c (deeds ++ rest) result) ∧ ∀ d ∈ deeds, d.IsSteady := by
  obtain ⟨rest, result, hRest⟩ := exists_leads_done (.ask a next)
  obtain ⟨answer, rest, rfl, -⟩ := leads_ask_done_iff.mp hRest
  have hRound := leads_whole_iff.mp (h.trans hRest)
  refine ⟨⟨_, _, hRound⟩, ?_⟩
  cases result with
  | ok u => exact fun d hd => hRound.isSteady d (List.mem_append_left _ hd)
  | error e =>
    -- a round that fails was asked for nothing but its fetch, so it had done nothing yet
    have hLength := hRound.length_eq_one
    rw [List.length_append, List.length_cons] at hLength
    have hNone : deeds = [] := List.length_eq_zero_iff.mp (by omega)
    rw [hNone]
    exact fun d hd => absurd hd List.not_mem_nil

/-! ## Turns -/

namespace Loop

variable {l l' : Loop} {e : Event}

/-- What an event does to a loop. -/
inductive Turn (c : Config) (l : Loop) : Event → Loop → Prop
  | goesOn {a b : Ask} {next : a.Answer → Round} {next' : b.Answer → Round}
      (answers : (a : Ask) → a.Answer) (h : l.stage = .working (.ask a next))
      (hNext : next (answers a) = .ask b next') :
    Turn c l (.answered answers)
      { l with stage := .working (.ask b next'), deeds := l.deeds ++ [.asked a (answers a)] }
  | done {a : Ask} {next : a.Answer → Round} (answers : (a : Ask) → a.Answer)
      (h : l.stage = .working (.ask a next)) (hNext : next (answers a) = .done (.ok ())) :
    Turn c l (.answered answers)
      { l with stage := .working (.whole c), deeds := l.deeds ++ [.asked a (answers a)] }
  | failed {a : Ask} {next : a.Answer → Round} {error : ErrorChain} (answers : (a : Ask) → a.Answer)
      (h : l.stage = .working (.ask a next)) (hNext : next (answers a) = .done (.error error)) :
    Turn c l (.answered answers)
      { l with
        stage := .pausing 1000
        deeds := l.deeds ++ [.asked a (answers a), .paused 1000] }
  | resumed {ms : Nat} (h : l.stage = .pausing ms) :
    Turn c l .resumed { l with stage := .working (.whole c) }
  | cancel : Turn c l .cancel { l with cancelled := true }
  | stop {r : Round} (h : l.stage = .working r) (hCancelled : l.cancelled = true) :
    Turn c l .stop { l with stage := .ended (.ok ()) }

theorem turn_of_step? (h : l.step? c e = some l') : Turn c l e l' := by
  cases e with
  | answered answers =>
    cases hStage : l.stage with
    | working r =>
      cases r with
      | done result =>
        simp only [step?, hStage] at h
        cases h
      | ask a next =>
        simp only [step?, hStage] at h
        -- the round asks again, or is done, and then well or not
        cases hNext : next (answers a) with
        | done result =>
          rw [hNext] at h
          cases result with
          | ok u =>
            obtain rfl := Option.some.inj h
            exact .done answers hStage hNext
          | error error =>
            obtain rfl := Option.some.inj h
            exact .failed answers hStage hNext
        | ask b next' =>
          rw [hNext] at h
          obtain rfl := Option.some.inj h
          exact .goesOn answers hStage hNext
    | _ =>
      simp only [step?, hStage] at h
      cases h
  | resumed =>
    cases hStage : l.stage with
    | pausing ms =>
      simp only [step?, hStage] at h
      obtain rfl := Option.some.inj h
      exact .resumed hStage
    | _ =>
      simp only [step?, hStage] at h
      cases h
  | cancel =>
    obtain rfl := Option.some.inj h
    exact .cancel
  | stop =>
    cases hStage : l.stage with
    | working r =>
      simp only [step?, hStage] at h
      by_cases hCancelled : l.cancelled = true
      · rw [if_pos hCancelled] at h
        obtain rfl := Option.some.inj h
        exact .stop hStage hCancelled
      · rw [if_neg hCancelled] at h
        cases h
    | _ =>
      simp only [step?, hStage] at h
      cases h

/-! ## Accounts -/

/-- What a loop has done of its last round, by its stage: nothing in a pause, and else the beginning of a
round that still asks for something. -/
inductive Stands (c : Config) : Stage → List Deed → Prop
  | working {a : Ask} {next : a.Answer → Round} {last : List Deed}
      (h : (Round.whole c).Leads last (.ask a next)) : Stands c (.working (.ask a next)) last
  | pausing : Stands c (.pausing 1000) []
  | ended {a : Ask} {next : a.Answer → Round} {last : List Deed}
      (h : (Round.whole c).Leads last (.ask a next)) : Stands c (.ended (.ok ())) last

theorem stands_whole (c : Config) : Stands c (.working (.whole c)) [] := .working (.here (.whole c))

/-- What it has done is steady. -/
theorem Stands.begins {stage : Stage} {last : List Deed} (h : Stands c stage last) :
    (∃ rest result, IsRound c (last ++ rest) result) ∧ ∀ d ∈ last, d.IsSteady := by
  cases h with
  | working h => exact h.begins
  | pausing => exact (Round.Leads.here (.whole c)).begins
  | ended h => exact h.begins

/-- Whether a loop has done these rounds and this beginning of one more, and was told to stop if it has
ended. -/
structure Accounts (c : Config) (l : Loop) (events : List Event) (past : List Past) (last : List Deed) :
    Prop where
  deeds : l.deeds = past.flatMap Past.withPause ++ last
  whole : ∀ x ∈ past, IsRound c x.deeds x.result
  stands : Stands c l.stage last
  cancelled : l.cancelled = true → Event.cancel ∈ events
  stopped : ∀ result, l.stage = .ended result → l.cancelled = true

theorem accounts_start (c : Config) : (start c).Accounts c [] [] [] :=
  ⟨rfl, fun _ hx => absurd hx List.not_mem_nil, stands_whole c, fun h => (by cases h),
    fun _ h => (by cases h)⟩

variable {events : List Event} {past : List Past} {last : List Deed}

/-- A loop that is at work asks for something, after the beginning of a round. -/
theorem Accounts.asks (h : l.Accounts c events past last) {r : Round} (hStage : l.stage = .working r) :
    ∃ a next, r = .ask a next ∧ (Round.whole c).Leads last r := by
  have hStands := h.stands
  rw [hStage] at hStands
  cases hStands with
  | working hLeads => exact ⟨_, _, rfl, hLeads⟩

/-- A pause takes a second, and comes after a whole round. -/
theorem Accounts.pauses (h : l.Accounts c events past last) {ms : Nat} (hStage : l.stage = .pausing ms) :
    ms = 1000 ∧ last = [] := by
  have hStands := h.stands
  rw [hStage] at hStands
  cases hStands with
  | pausing => exact ⟨rfl, rfl⟩

/-- One more round is over. -/
theorem Accounts.whole_concat (h : l.Accounts c events past last) {a : Ask} {next : a.Answer → Round}
    {result : Except ErrorChain Unit} (hStage : l.stage = .working (.ask a next)) (answer : a.Answer)
    (hNext : next answer = .done result) :
    ∀ x ∈ past ++ [⟨last ++ [.asked a answer], result⟩], IsRound c x.deeds x.result := by
  obtain ⟨-, -, -, hLeads⟩ := h.asks hStage
  have hLast : IsRound c (last ++ [.asked a answer]) result :=
    Round.leads_whole_iff.mp (hNext ▸ hLeads.concat answer)
  exact List.forall_mem_append.mpr ⟨h.whole, List.forall_mem_singleton.mpr hLast⟩

/-- What one event keeps. -/
theorem Accounts.turn (h : l.Accounts c events past last) (hTurn : Turn c l e l') :
    ∃ past' last', l'.Accounts c (events ++ [e]) past' last' := by
  have hCancelled (hBefore : l.cancelled = true) : Event.cancel ∈ events ++ [e] :=
    List.mem_append_left [e] (h.cancelled hBefore)
  cases hTurn with
  | @goesOn a b next next' answers hStage hNext =>
    obtain ⟨-, -, -, hLeads⟩ := h.asks hStage
    -- the last round has come one deed further
    refine ⟨past, last ++ [.asked a (answers a)], ?_, h.whole, ?_, hCancelled, fun _ h => (by cases h)⟩
    · rw [← List.append_assoc, ← h.deeds]
    · exact .working (hNext ▸ hLeads.concat (answers a))
  | @done a next answers hStage hNext =>
    -- the last round is over, and another begins
    refine ⟨past ++ [⟨last ++ [.asked a (answers a)], .ok ()⟩], [], ?_,
      h.whole_concat hStage (answers a) hNext, stands_whole c, hCancelled, fun _ h => (by cases h)⟩
    simp [h.deeds, Past.withPause]
  | @failed a next error answers hStage hNext =>
    -- the last round is over, and the pause is put down with it
    refine ⟨past ++ [⟨last ++ [.asked a (answers a)], .error error⟩], [], ?_,
      h.whole_concat hStage (answers a) hNext, .pausing, hCancelled, fun _ h => (by cases h)⟩
    simp [h.deeds, Past.withPause]
  | resumed hStage =>
    obtain ⟨-, rfl⟩ := h.pauses hStage
    exact ⟨past, [], h.deeds, h.whole, stands_whole c, hCancelled, fun _ h => (by cases h)⟩
  | cancel =>
    exact ⟨past, last, h.deeds, h.whole, h.stands, fun _ => List.mem_concat_self, fun _ _ => rfl⟩
  | stop hStage hTold =>
    -- the round is left where it is
    obtain ⟨a, next, rfl, hLeads⟩ := h.asks hStage
    exact ⟨past, last, h.deeds, h.whole, .ended hLeads, hCancelled, fun _ _ => hTold⟩

/-- What a run keeps. -/
theorem Accounts.play {before : List Event} (h : l.Accounts c before past last)
    (hPlay : l.play? c events = some l') :
    ∃ past' last', l'.Accounts c (before ++ events) past' last' := by
  induction events generalizing l before past last with
  | nil =>
    obtain rfl := Option.some.inj hPlay
    rw [List.append_nil]
    exact ⟨past, last, h⟩
  | cons e events ih =>
    obtain ⟨next, hNext, hPlay⟩ := Option.bind_eq_some_iff.mp hPlay
    obtain ⟨past', last', h'⟩ := h.turn (turn_of_step? hNext)
    rw [List.append_cons]
    exact ih h' hPlay

/-- The rounds of a loop, its pauses among them, are paced. -/
theorem Accounts.paced (h : l.Accounts c events past last) : Paced l.deeds := by
  rw [h.deeds]
  exact (Paced.flatMap fun x hx => (h.whole x hx).paced).append (.of_isSteady h.stands.begins.2)

/-- A loop that has not ended goes on: it waits for an answer and takes any, or is in a pause. -/
theorem Accounts.goes_on (h : l.Accounts c events past last)
    (hStage : ∀ result, l.stage ≠ .ended result) :
    (∀ answers, ∃ l', l.step? c (.answered answers) = some l') ∨
      l.stage = .pausing 1000 ∧ ∃ l', l.step? c .resumed = some l' := by
  cases hSame : l.stage with
  | working r =>
    obtain ⟨a, next, rfl, -⟩ := h.asks hSame
    refine Or.inl fun answers => ?_
    simp only [step?, hSame]
    exact ⟨_, rfl⟩
  | pausing ms =>
    obtain ⟨rfl, -⟩ := h.pauses hSame
    refine Or.inr ⟨rfl, ?_⟩
    simp only [step?, hSame]
    exact ⟨_, rfl⟩
  | ended result => exact absurd hSame (hStage result)

end Loop

/-! ## Phases -/

/-- The stage of a loop whose consumer is in a phase. -/
def Phase.stage (c : Config) : Phase → Loop.Stage
  | .fetching => .working (.whole c)
  | .processing batch =>
    .working (.ask (.process batch) fun result => .settle c batch (verdictOf batch.length result))
  | .settling batch left => .working (.asking (left.map (·.ask c batch)) (.done (.ok ())))
  | .pausing => .pausing pauseMs
  | .stopped => .ended (.ok ())

/-- What is an answer to a loop is to its consumer, by the phase, a fetch, a verdict or a settlement. -/
def Phase.event (c : Config) (phase : Phase) : Loop.Event → Consumer.Event
  | .answered answers =>
    match phase with
    | .fetching => .fetched (answers (.fetch c.batchSize c.batchWaitMs))
    | .processing batch => .processed (answers (.process batch))
    | _ => .settled
  | .resumed => .resumed
  | .cancel => .cancel
  | .stop => .stop

/-- After a settlement come those that are left. -/
theorem following_asking (c : Config) (batch : List Message) (left : List Settlement) :
    Loop.Stage.following c (.asking (left.map (·.ask c batch)) (.done (.ok ()))) =
      (Phase.settle batch left).stage c := by
  cases left with
  | nil => rfl
  | cons s left => rfl

namespace Loop

variable {l l' : Loop} {k k' : Consumer}

/-- Whether a loop has come as far as a consumer. -/
structure Mirrors (c : Config) (l : Loop) (k : Consumer) : Prop where
  stage : l.stage = k.phase.stage c
  cancelled : l.cancelled = k.cancelled
  attempts : l.deeds.filterMap Deed.attempt? =
    k.attempts.filterMap fun x => (x.2.ask c x.1).attempt?

/-- Pauses attempt nothing, so an answer adds at most the attempt that was asked for. -/
theorem filterMap_attempt?_answered (deeds : List Deed) (a : Ask) (answer : a.Answer) (stage : Stage) :
    (deeds ++ .asked a answer :: stage.pause).filterMap Deed.attempt? =
      deeds.filterMap Deed.attempt? ++ [a].filterMap Ask.attempt? := by
  have hPause : stage.pause.filterMap Deed.attempt? = [] := by
    cases stage with
    | pausing ms => rfl
    | _ => rfl
  rw [List.filterMap_append, List.filterMap_cons, hPause]
  rfl

/-- A loop and a consumer that have come as far take the same events, and then have come as far again. -/
theorem Mirrors.step (h : Mirrors c l k) (e : Event) :
    Option.Rel (Mirrors c) (l.step? c e) (k.step? (k.phase.event c e)) := by
  obtain ⟨stage, cancelled, deeds⟩ := l
  obtain ⟨phase, told, attempts⟩ := k
  obtain ⟨rfl, rfl, hAttempts⟩ : stage = phase.stage c ∧ cancelled = told ∧
      deeds.filterMap Deed.attempt? = attempts.filterMap fun x => (x.2.ask c x.1).attempt? :=
    ⟨h.stage, h.cancelled, h.attempts⟩
  cases e with
  | answered answers =>
    -- nothing but a settlement adds to the attempts
    have hSame {a : Ask} (h : [a].filterMap Ask.attempt? = []) (answer : a.Answer) (stage : Stage) :
        (deeds ++ .asked a answer :: stage.pause).filterMap Deed.attempt? =
          attempts.filterMap fun x => (x.2.ask c x.1).attempt? := by
      rw [filterMap_attempt?_answered, h, List.append_nil]
      exact hAttempts
    cases phase with
    | fetching =>
      simp only [step?, Phase.stage, Round.whole, Consumer.step?, Phase.event]
      rcases answers (.fetch c.batchSize c.batchWaitMs) with error | _ | ⟨m, batch⟩
      · exact .some ⟨rfl, rfl, hSame rfl _ _⟩
      · exact .some ⟨rfl, rfl, hSame rfl _ _⟩
      · exact .some ⟨rfl, rfl, hSame rfl _ _⟩
    | processing batch =>
      have hSettle (v : Verdict) :
          Stage.following c (.settle c batch v) = (Phase.settle batch v.settlements).stage c := by
        rw [Round.settle_eq, following_asking]
      exact .some ⟨hSettle _, rfl, hSame rfl _ _⟩
    | settling batch left =>
      cases left with
      | nil => exact .none
      | cons s left =>
        -- both note the same attempt, if there is a message for it
        have hMore : (attempts ++ [(batch, s)]).filterMap (fun x => (x.2.ask c x.1).attempt?) =
            deeds.filterMap Deed.attempt? ++ [s.ask c batch].filterMap Ask.attempt? := by
          rw [List.filterMap_append, ← hAttempts]
          rfl
        exact .some ⟨following_asking c batch left, rfl,
          (filterMap_attempt?_answered deeds (s.ask c batch) (answers _) _).trans hMore.symm⟩
    | pausing => exact .none
    | stopped => exact .none
  | resumed =>
    cases phase with
    | pausing => exact .some ⟨rfl, rfl, hAttempts⟩
    | _ => exact .none
  | cancel => exact .some ⟨rfl, rfl, hAttempts⟩
  | stop =>
    cases phase with
    | pausing => exact .none
    | stopped => exact .none
    | _ =>
      cases cancelled with
      | false => exact .none
      | true => exact .some ⟨rfl, rfl, hAttempts⟩

theorem mirrors_start (c : Config) : Mirrors c (start c) .start := ⟨rfl, rfl, rfl⟩

/-- The answers with this fetch and this verdict. -/
def answersOf (fetched : Except ErrorChain (List Message)) (verdict : Except ErrorChain Verdict) :
    (a : Ask) → a.Answer
  | .fetch .. => fetched
  | .process _ => verdict
  | .settle .. => .ok ()
  | .warn _ => ()

/-- Whatever can happen to a consumer is an event of the loop that has come as far. -/
theorem exists_event_eq {e : Consumer.Event} (h : k.step? e = some k') :
    ∃ e', k.phase.event c e' = e := by
  obtain ⟨phase, told, attempts⟩ := k
  -- an event tells only what its phase has asked for; the other answer can be any
  cases e with
  | fetched result =>
    cases phase with
    | fetching => exact ⟨.answered (answersOf result (.ok .empty)), rfl⟩
    | _ => simp [Consumer.step?] at h
  | processed result =>
    cases phase with
    | processing batch => exact ⟨.answered (answersOf (.ok []) result), rfl⟩
    | _ => simp [Consumer.step?] at h
  | settled =>
    cases phase with
    | settling batch left => exact ⟨.answered (answersOf (.ok []) (.ok .empty)), rfl⟩
    | _ => simp [Consumer.step?] at h
  | resumed => exact ⟨.resumed, rfl⟩
  | cancel => exact ⟨.cancel, rfl⟩
  | stop => exact ⟨.stop, rfl⟩

theorem exists_of_some_rel {α β : Type} {R : α → β → Prop} {x : α} {o : Option β}
    (h : Option.Rel R (some x) o) : ∃ y, o = some y ∧ R x y := by
  cases h with
  | some h => exact ⟨_, rfl, h⟩

theorem exists_of_rel_some {α β : Type} {R : α → β → Prop} {o : Option α} {y : β}
    (h : Option.Rel R o (some y)) : ∃ x, o = some x ∧ R x y := by
  cases h with
  | some h => exact ⟨_, rfl, h⟩

/-- Every run of a loop is one of a consumer. -/
theorem Mirrors.exists_consumer {events : List Event} (h : Mirrors c l k)
    (hPlay : l.play? c events = some l') :
    ∃ events' k', k.play? events' = some k' ∧ Mirrors c l' k' := by
  induction events generalizing l k with
  | nil =>
    obtain rfl := Option.some.inj hPlay
    exact ⟨[], k, rfl, h⟩
  | cons e events ih =>
    obtain ⟨next, hNext, hRest⟩ := Option.bind_eq_some_iff.mp hPlay
    have hStep := h.step e
    rw [hNext] at hStep
    obtain ⟨other, hOther, hMirrors⟩ := exists_of_some_rel hStep
    obtain ⟨events', k', hRest', h'⟩ := ih hMirrors hRest
    refine ⟨k.phase.event c e :: events', k', ?_, h'⟩
    rw [Consumer.play?, List.foldlM_cons, hOther]
    exact hRest'

/-- Every run of a consumer is one of a loop. -/
theorem Mirrors.exists_loop {events : List Consumer.Event} (h : Mirrors c l k)
    (hPlay : k.play? events = some k') :
    ∃ events' l', l.play? c events' = some l' ∧ Mirrors c l' k' := by
  induction events generalizing l k with
  | nil =>
    obtain rfl := Option.some.inj hPlay
    exact ⟨[], l, rfl, h⟩
  | cons e events ih =>
    obtain ⟨next, hNext, hRest⟩ := Option.bind_eq_some_iff.mp hPlay
    -- the event is that of some event of the loop, which takes the same step
    obtain ⟨e', hEvent⟩ := exists_event_eq (c := c) hNext
    have hStep := h.step e'
    rw [hEvent, hNext] at hStep
    obtain ⟨other, hOther, hMirrors⟩ := exists_of_rel_some hStep
    obtain ⟨events', l', hRest', h'⟩ := ih hMirrors hRest
    refine ⟨e' :: events', l', ?_, h'⟩
    rw [Loop.play?, List.foldlM_cons, hOther]
    exact hRest'

/-- Where a loop and a consumer have come as far, the same was answered on the reply subjects. -/
theorem Mirrors.replies_eq (h : Mirrors c l k) :
    k.replies c.redelivery =
      (l.deeds.filterMap Deed.attempt?).filterMap fun x => x.1.reply.map (·, x.2) := by
  rw [h.attempts, List.filterMap_filterMap, Consumer.replies]
  refine List.filterMap_congr fun x _ => ?_
  show x.2.reply? c.redelivery x.1 = _
  rw [Settlement.attempt?_ask, Settlement.reply?_eq]
  cases x.1[x.2.number]? with
  | none => rfl
  | some m => rfl

/-- A loop and a consumer have the same runs, with the same answers on the reply subjects. -/
theorem mirrors_runs (c : Config) :
    (∀ events l, (start c).play? c events = some l →
      ∃ events' k, Consumer.start.play? events' = some k ∧ Mirrors c l k) ∧
    (∀ events k, Consumer.start.play? events = some k →
      ∃ events' l, (start c).play? c events' = some l ∧ Mirrors c l k) ∧
    ∀ l k, Mirrors c l k → k.replies c.redelivery =
      (l.deeds.filterMap Deed.attempt?).filterMap fun x => x.1.reply.map (·, x.2) :=
  ⟨fun _ _ hPlay => (mirrors_start c).exists_consumer hPlay,
    fun _ _ hPlay => (mirrors_start c).exists_loop hPlay, fun _ _ h => h.replies_eq⟩

/-! ## The whole -/

/-- A round attempts one settlement for every number of a message that the verdict lists, and no other:
acknowledgements first, each group in the order of its list, whatever comes of the attempts.  If the
processor fails, every message is to be delivered again.  A loop of rounds goes on whatever it is answered.
It has done whole rounds and the beginning of one more, has paused for a second after every fetch that
failed and never else, and has ended only when it was told to, without an error. -/
theorem settles_listed (c : Config) :
    (∀ deeds result, (Round.whole c).Leads deeds (.done result) ↔ IsRound c deeds result) ∧
    (∀ batch result settling,
      IsRound c (.asked (.fetch c.batchSize c.batchWaitMs) (.ok batch) ::
        .asked (.process batch) result :: settling) (.ok ()) →
      settling.filterMap Deed.attempt? =
        (verdictOf batch.length result).attempts c.redelivery batch) ∧
    (∀ (batch : List Message) (v : Verdict), ∀ x ∈ v.attempts c.redelivery batch,
      ∃ number ∈ v.ack ++ v.nak.map Prod.fst, batch[number]? = some x.1) ∧
    (∀ (batch : List Message) (e : ErrorChain),
      (verdictOf batch.length (.error e)).attempts c.redelivery batch =
        batch.map (·, c.redelivery.nakBody)) ∧
    ∀ events l, (start c).play? c events = some l → ∃ (past : List Past) (last : List Deed),
      l.deeds = past.flatMap Past.withPause ++ last ∧
      (∀ x ∈ past, IsRound c x.deeds x.result) ∧
      (∃ rest result, IsRound c (last ++ rest) result) ∧
      Paced l.deeds ∧
      (∀ result, l.stage = .ended result → result = .ok () ∧ Event.cancel ∈ events) ∧
      ((∀ result, l.stage ≠ .ended result) →
        (∀ answers, ∃ l', l.step? c (.answered answers) = some l') ∨
          l.stage = .pausing 1000 ∧ ∃ l', l.step? c .resumed = some l') := by
  refine ⟨fun _ _ => Round.leads_whole_iff, fun _ _ _ h => h.attempts_eq,
    fun _ _ _ h => Verdict.exists_listed h, attempts_verdictOf_error c.redelivery, ?_⟩
  intro events l hPlay
  obtain ⟨past, last, hAccounts⟩ := (accounts_start c).play hPlay
  rw [List.nil_append] at hAccounts
  refine ⟨past, last, hAccounts.deeds, hAccounts.whole, hAccounts.stands.begins.1, hAccounts.paced, ?_,
    hAccounts.goes_on⟩
  -- a loop that has ended stood at its end without a fault, since a failed fetch only makes it pause
  intro result hStage
  refine ⟨?_, hAccounts.cancelled (hAccounts.stopped result hStage)⟩
  have hStands := hAccounts.stands
  rw [hStage] at hStands
  cases hStands with
  | ended => rfl

end Loop

namespace Sample

def lora : Config := ⟨"lora", "lora-as", 10, 1000, .standard⟩

def first : Message := ⟨"ns.first", [], some "one"⟩

def second : Message := ⟨"ns.second", [], none⟩

/-- A verdict that lists a message twice, another once, and numbers that no message has. -/
def careless : Verdict := ⟨[1, 7, 1], [(0, some "late"), (9, none)]⟩

/-- Both messages come, and no settlement is done. -/
def deafAnswers : (a : Ask) → a.Answer
  | .fetch .. => .ok [first, second]
  | .process _ => .ok careless
  | .settle .. => .error ⟨"gone", []⟩
  | .warn _ => ()

def downAnswers : (a : Ask) → a.Answer
  | .fetch .. => .error ⟨"down", []⟩
  | a => deafAnswers a

/-- What the round with these messages does after it has the verdict. -/
def settling : List Deed :=
  (careless.settlements.map (·.ask lora [first, second])).map fun a => .asked a (deafAnswers a)

/-- A fetch fails; then comes the round, and a round that is left at its fetch. -/
def events : List Loop.Event :=
  [.answered downAnswers, .resumed] ++ List.replicate 7 (.answered deafAnswers) ++ [.cancel, .stop]

theorem settling_isRound : IsRound lora
    (.asked (.fetch 10 1000) (.ok [first, second]) :: .asked (.process [first, second]) (.ok careless) ::
      settling) (.ok ()) :=
  .settled (List.cons_ne_nil first [second]) (.ok careless) rfl

theorem events_end : ∃ l, (Loop.start lora).play? lora events = some l ∧ l.stage = .ended (.ok ()) :=
  ⟨_, rfl, rfl⟩

end Sample

theorem Loop.settles_listed_sample :
    (Sample.settling.filterMap Deed.attempt? =
      [(Sample.second, ""), (Sample.second, ""),
        (Sample.first, RedeliveryPolicy.standard.nakBody)]) ∧
    (∃ number ∈ [1, 7, 1, 0, 9], [Sample.first, Sample.second][number]? = some Sample.second) ∧
    ∃ (l : Loop) (past : List Past) (last : List Deed),
      (start Sample.lora).play? Sample.lora Sample.events = some l ∧
      l.deeds = past.flatMap Past.withPause ++ last ∧
      (∀ x ∈ past, IsRound Sample.lora x.deeds x.result) ∧
      Paced l.deeds ∧
      Event.cancel ∈ Sample.events := by
  obtain ⟨-, hAttempts, hListed, -, hRuns⟩ := settles_listed Sample.lora
  refine ⟨hAttempts _ _ _ Sample.settling_isRound, ?_, ?_⟩
  · exact hListed [Sample.first, Sample.second] Sample.careless (Sample.second, "") List.mem_cons_self
  · obtain ⟨l, hPlay, hStage⟩ := Sample.events_end
    obtain ⟨past, last, hDeeds, hWhole, -, hPaced, hEnded, -⟩ := hRuns Sample.events l hPlay
    exact ⟨l, past, last, hPlay, hDeeds, hWhole, hPaced, (hEnded _ hStage).2⟩

end Lorawan.Ingress
