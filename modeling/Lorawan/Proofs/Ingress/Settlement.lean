import Lorawan.Ingress.Worker
import Lorawan.Proofs.Ingress.Routing
import Mathlib.Data.List.Basic
import Mathlib.Data.List.ModifyLast

/-!
# Settlement of messages

No message is lost and none is settled twice.  Whatever a worker fetches, however its fetches fail and
wherever it is stopped, every message of a batch that was processed to the end is settled exactly once, as
its own handling has ended; and no message is acknowledged whose handling has not ended so
(`Worker.settles_once`).

* **Verdicts**: `CarriesOut` says what it takes to settle messages by their outcomes, and the verdict on
  some outcomes does that (`carriesOut_ofOutcomes`).
* **Runs**: a run is accounted for by the batches it has fetched, each with the turns of its handlers
  (`Worker.handlings`).  One event keeps the account (`Worker.Accounts.step`), and so does a run.
-/

namespace Lorawan.Ingress

/-! ## Verdicts on outcomes -/

/-- Whether settlements carry out the outcomes of the messages of a batch: every message is settled once,
positively if its outcome is an acknowledgement; acknowledgements come first, and both groups are in the
order of the messages. -/
structure CarriesOut (outcomes : List Outcome) (settlements : List Settlement) : Prop where
  once : ∀ {number outcome}, outcomes[number]? = some outcome →
    settlements.filter (·.number = number) = [⟨number, outcome = .ack⟩]
  bounded : ∀ s ∈ settlements, s.number < outcomes.length
  ordered : settlements.Pairwise fun s s' =>
    (s'.positive = true → s.positive = true) ∧ (s.positive = s'.positive → s.number < s'.number)

namespace Verdict

/-- The verdict after some more outcomes names those to be acknowledged and the others apart. -/
theorem settlements_foldl_add (xs : List (Outcome × Nat)) (v : Verdict) :
    (xs.foldl (fun v x => v.add x.2 x.1) v).ack =
        v.ack ++ (xs.filter (·.1 = .ack)).map Prod.snd ∧
      (xs.foldl (fun v x => v.add x.2 x.1) v).nak.map Prod.fst =
        v.nak.map Prod.fst ++ (xs.filter (·.1 ≠ .ack)).map Prod.snd := by
  induction xs generalizing v with
  | nil => simp
  | cons x xs ih =>
    obtain ⟨hAck, hNak⟩ := ih (v.add x.2 x.1)
    rw [List.foldl_cons, hAck, hNak]
    rcases x with ⟨_ | reason, number⟩ <;> simp [add]

/-- The settlements by the verdict on some outcomes: of the messages that are acknowledged, then of the
others. -/
theorem settlements_ofOutcomes (outcomes : List Outcome) :
    (ofOutcomes outcomes).settlements =
      (outcomes.zipIdx.filter (·.1 = .ack)).map (fun x => ⟨x.2, true⟩) ++
        (outcomes.zipIdx.filter (·.1 ≠ .ack)).map (fun x => ⟨x.2, false⟩) := by
  obtain ⟨hAck, hNak⟩ := settlements_foldl_add outcomes.zipIdx empty
  have hAck : (ofOutcomes outcomes).ack = (outcomes.zipIdx.filter (·.1 = .ack)).map Prod.snd := hAck
  have hNak : (ofOutcomes outcomes).nak.map Prod.fst =
      (outcomes.zipIdx.filter (·.1 ≠ .ack)).map Prod.snd := hNak
  have hNumbers : (ofOutcomes outcomes).nak.map (fun x => (⟨x.1, false⟩ : Settlement)) =
      ((ofOutcomes outcomes).nak.map Prod.fst).map (⟨·, false⟩) := by
    rw [List.map_map]
    rfl
  unfold settlements
  rw [hNumbers, hAck, hNak, List.map_map, List.map_map]
  rfl

end Verdict

/-- Each number stands with its own outcome only. -/
theorem filter_zipIdx {outcomes : List Outcome} {number : Nat} {outcome : Outcome}
    (h : outcomes[number]? = some outcome) (start : Nat) :
    (outcomes.zipIdx start).filter (·.2 = start + number) = [(outcome, start + number)] := by
  induction outcomes generalizing number start with
  | nil => simp at h
  | cons o outcomes ih =>
    rw [List.zipIdx_cons]
    cases number with
    | zero =>
      obtain rfl : o = outcome := by simpa using h
      -- all other numbers are greater
      have hRest : (outcomes.zipIdx (start + 1)).filter (·.2 = start) = [] := by
        refine List.filter_eq_nil_iff.mpr fun x hx => ?_
        have hLater := List.le_snd_of_mem_zipIdx hx
        simp only [decide_eq_true_eq]
        omega
      simp [hRest]
    | succ number =>
      have hNumber : start + (number + 1) = start + 1 + number := by omega
      rw [List.filter_cons_of_neg (by simp), hNumber]
      exact ih (by simpa using h) (start + 1)

theorem carriesOut_ofOutcomes (outcomes : List Outcome) :
    CarriesOut outcomes (Verdict.ofOutcomes outcomes).settlements := by
  have hSorted : outcomes.zipIdx.Pairwise fun x y => x.2 < y.2 := by
    rw [← List.pairwise_map, List.zipIdx_map_snd]
    exact List.pairwise_lt_range'
  rw [Verdict.settlements_ofOutcomes]
  constructor
  · intro number outcome h
    have hOnly : outcomes.zipIdx.filter (·.2 = number) = [(outcome, number)] := by
      simpa using filter_zipIdx h 0
    -- of either group, what has the number is what has the number in both groups
    have hGroup : ∀ (P : Outcome × Nat → Bool) (positive : Bool),
        ((outcomes.zipIdx.filter P).map fun x => (⟨x.2, positive⟩ : Settlement)).filter
            (·.number = number) =
          ([(outcome, number)].filter P).map fun x => ⟨x.2, positive⟩ := by
      intro P positive
      rw [List.filter_map, List.filter_comm, ← hOnly]
      rfl
    rw [List.filter_append, hGroup, hGroup]
    cases outcome <;> rfl
  · intro s hs
    have hNumber : ∃ x ∈ outcomes.zipIdx, x.2 = s.number := by
      rcases List.mem_append.mp hs with hs | hs
      · obtain ⟨x, hx, rfl⟩ := List.mem_map.mp hs
        exact ⟨x, (List.mem_filter.mp hx).1, rfl⟩
      · obtain ⟨x, hx, rfl⟩ := List.mem_map.mp hs
        exact ⟨x, (List.mem_filter.mp hx).1, rfl⟩
    obtain ⟨x, hx, hNumber⟩ := hNumber
    rw [← hNumber]
    exact List.snd_lt_of_mem_zipIdx hx
  · rw [List.pairwise_append]
    refine ⟨?_, ?_, ?_⟩
    · rw [List.pairwise_map]
      refine (hSorted.filter _).imp fun h => ?_
      exact ⟨fun _ => rfl, fun _ => h⟩
    · rw [List.pairwise_map]
      refine (hSorted.filter _).imp fun h => ?_
      exact ⟨fun h => h, fun _ => h⟩
    · -- acknowledgements come before all others
      intro s hs s' hs'
      obtain ⟨x, -, rfl⟩ := List.mem_map.mp hs
      obtain ⟨y, -, rfl⟩ := List.mem_map.mp hs'
      exact ⟨fun _ => rfl, fun h => by cases h⟩

/-- A message is acknowledged only if that is its outcome. -/
theorem CarriesOut.acknowledged {outcomes : List Outcome} {settlements : List Settlement}
    (h : CarriesOut outcomes settlements) {s : Settlement} (hs : s ∈ settlements)
    (hPositive : s.positive = true) : outcomes[s.number]? = some .ack := by
  have hOutcome := List.getElem?_eq_getElem (h.bounded s hs)
  have hOwn : s ∈ settlements.filter (·.number = s.number) :=
    List.mem_filter.mpr ⟨hs, decide_eq_true rfl⟩
  rw [h.once hOutcome] at hOwn
  have hSame := congrArg Settlement.positive (List.mem_singleton.mp hOwn)
  rw [hPositive] at hSame
  rw [hOutcome, of_decide_eq_true hSame.symm]

/-- What is answered for a batch whose messages had these outcomes: an empty text for every
acknowledgement, then for the others the delay in nanoseconds.  Messages without a reply subject are
passed over. -/
def answers (policy : RedeliveryPolicy) (messages : List Message) (outcomes : List Outcome) :
    List (String × String) :=
  ((messages.zip outcomes).filter (·.2 = .ack)).filterMap (fun x => x.1.reply.map (·, "")) ++
    ((messages.zip outcomes).filter (·.2 ≠ .ack)).filterMap (fun x => x.1.reply.map
      (·, "-NAK \x7b\"delay\":" ++ toString (policy.nakDelayMs * 1000000) ++ "\x7d"))

/-- Looking up by number is the same as going along both lists. -/
theorem filterMap_zipIdx {α : Type} (messages : List Message) (f : Outcome → Message → Option α)
    (outcomes : List Outcome) (start : Nat) :
    (outcomes.zipIdx start).filterMap (fun x => messages[x.2]?.bind (f x.1)) =
      ((messages.drop start).zip outcomes).filterMap fun x => f x.2 x.1 := by
  induction outcomes generalizing start with
  | nil => simp
  | cons o outcomes ih =>
    rw [List.zipIdx_cons, List.filterMap_cons, ih]
    by_cases hBound : start < messages.length
    · rw [List.drop_eq_getElem_cons hBound, List.zip_cons_cons, List.filterMap_cons,
        List.getElem?_eq_getElem hBound, Option.bind_some]
    · have hDrop : messages.drop start = [] := List.drop_eq_nil_of_le (by omega)
      have hDrop' : messages.drop (start + 1) = [] := List.drop_eq_nil_of_le (by omega)
      rw [hDrop, hDrop', List.getElem?_eq_none (by omega)]
      rfl

theorem Settlement.reply?_eq (policy : RedeliveryPolicy) (messages : List Message) (s : Settlement) :
    s.reply? policy messages =
      messages[s.number]?.bind fun m => m.reply.map (·, s.body policy) := by
  unfold reply?
  cases messages[s.number]? with
  | none => rfl
  | some m => cases hReply : m.reply <;> simp [hReply]

/-- What is answered for one of the two groups. -/
theorem replies_group (policy : RedeliveryPolicy) (messages : List Message) (outcomes : List Outcome)
    (P : Outcome → Bool) (positive : Bool) :
    ((outcomes.zipIdx.filter fun x => P x.1).map fun x => (⟨x.2, positive⟩ : Settlement)).filterMap
        (Settlement.reply? policy messages) =
      ((messages.zip outcomes).filter fun x => P x.2).filterMap fun x =>
        x.1.reply.map (·, Settlement.body policy ⟨0, positive⟩) := by
  have hZip := filterMap_zipIdx messages
    (fun o m => if P o then m.reply.map (·, Settlement.body policy ⟨0, positive⟩) else none) outcomes 0
  rw [List.filterMap_map, List.filterMap_filter, List.filterMap_filter]
  rw [List.drop_zero] at hZip
  rw [← hZip]
  refine List.filterMap_congr fun x _ => ?_
  rw [Function.comp_apply, Settlement.reply?_eq]
  cases P x.1
  · simp
  · rfl

theorem replies_settlements (policy : RedeliveryPolicy) (messages : List Message)
    (outcomes : List Outcome) :
    (Verdict.ofOutcomes outcomes).settlements.filterMap (Settlement.reply? policy messages) =
      answers policy messages outcomes := by
  rw [Verdict.settlements_ofOutcomes, List.filterMap_append]
  have hAck := replies_group policy messages outcomes (fun o => o = .ack) true
  have hNak := replies_group policy messages outcomes (fun o => o ≠ .ack) false
  rw [hAck, hNak]
  rfl

/-! ## Handled batches -/

namespace Batch

variable {σ : Type} {k : Conditions σ} {server : Server}

theorem mapM_outcome?_eq_some_iff {handlers : List (Program Outcome)} {outcomes : List Outcome} :
    handlers.mapM outcome? = some outcomes ↔ handlers = outcomes.map .done := by
  induction handlers generalizing outcomes with
  | nil => cases outcomes <;> simp
  | cons p handlers ih =>
    have hCons : (p :: handlers).mapM outcome? = some outcomes ↔
        ∃ o os, outcome? p = some o ∧ handlers.mapM outcome? = some os ∧ o :: os = outcomes := by
      simp [List.mapM_cons, Option.bind_eq_some_iff]
    rw [hCons]
    constructor
    · rintro ⟨o, os, hp, hRest, rfl⟩
      cases p with
      | done a =>
        obtain rfl := Option.some.inj hp
        rw [ih.mp hRest, List.map_cons]
      | _ => cases hp
    · intro h
      cases outcomes with
      | nil => cases h
      | cons o os =>
        obtain ⟨rfl, hRest⟩ := List.cons.inj h
        exact ⟨o, os, rfl, ih.mpr hRest, rfl⟩

/-- There is a verdict when all handlers are done, and it is that on their outcomes. -/
theorem verdict?_eq_some_iff {b : Batch σ} {v : Verdict} :
    b.verdict? = some v ↔
      ∃ outcomes, b.handlers = outcomes.map .done ∧ Verdict.ofOutcomes outcomes = v := by
  unfold verdict?
  rw [Option.map_eq_some_iff]
  simp only [mapM_outcome?_eq_some_iff]

end Batch

/-- A batch that was fetched: its messages, the world they came into, and the turns that their handlers
have had. -/
structure Handling (σ : Type) where
  messages : List Message
  world : World σ
  turns : List Nat

namespace Handling

variable {σ : Type}

/-- The handlers after their turns. -/
def batch (k : Conditions σ) (server : Server) (b : Handling σ) : Batch σ :=
  (Batch.start server b.messages b.world).play k b.turns

/-- Whether the handling of all messages has ended, with these outcomes. -/
def Returns (k : Conditions σ) (server : Server) (b : Handling σ) (outcomes : List Outcome) : Prop :=
  (b.batch k server).handlers = outcomes.map .done

variable {k : Conditions σ} {server : Server} {b : Handling σ} {outcomes : List Outcome}

theorem Returns.length_eq (h : b.Returns k server outcomes) : outcomes.length = b.messages.length := by
  have hLength : (b.batch k server).handlers.length = b.messages.length := by
    rw [batch, Batch.length_play, Batch.start, List.length_map]
  rw [← hLength, h, List.length_map]

/-- The batch after one more turn. -/
theorem batch_turn (k : Conditions σ) (server : Server) (b : Handling σ) (number : Nat) :
    { b with turns := b.turns ++ [number] }.batch k server = (b.batch k server).turn k number := by
  simp [batch, Batch.play, Batch.turn]

end Handling

namespace Worker

variable {σ : Type} {k : Conditions σ} {server : Server} {w w' : Worker σ} {e : Event}

/-! ## Events -/

/-- The same worker in another phase. -/
def enter (w : Worker σ) (phase : Phase) : Worker σ :=
  { w with consumer := { w.consumer with phase } }

/-- The worker after one more settlement, with these left. -/
def settle (w : Worker σ) (messages : List Message) (s : Settlement) (left : List Settlement) :
    Worker σ :=
  { w with
    consumer := { w.consumer with
      phase := .settle messages left
      attempts := w.consumer.attempts ++ [(messages, s)] } }

/-- What an event does to a worker. -/
inductive Step (k : Conditions σ) (server : Server) (w : Worker σ) : Event → Worker σ → Prop
  | failed (error : ErrorChain) (h : w.consumer.phase = .fetching) :
    Step k server w (.fetched (.error error)) (w.enter .pausing)
  | empty (h : w.consumer.phase = .fetching) : Step k server w (.fetched (.ok [])) w
  | batch (m : Message) (messages : List Message) (h : w.consumer.phase = .fetching) :
    Step k server w (.fetched (.ok (m :: messages)))
      { w.enter (.processing (m :: messages)) with
        batch := .start server (m :: messages) w.batch.world }
  | turn (number : Nat) {messages : List Message} (h : w.consumer.phase = .processing messages) :
    Step k server w (.turn number) { w with batch := w.batch.turn k number }
  | finished {messages : List Message} {outcomes : List Outcome}
      (h : w.consumer.phase = .processing messages) (hDone : w.batch.handlers = outcomes.map .done) :
    Step k server w .finished (w.enter (.settle messages (Verdict.ofOutcomes outcomes).settlements))
  | settled {messages : List Message} {s : Settlement} {left : List Settlement}
      (h : w.consumer.phase = .settling messages (s :: left)) :
    Step k server w .settled (w.settle messages s left)
  | resumed (h : w.consumer.phase = .pausing) : Step k server w .resumed (w.enter .fetching)
  | cancel : Step k server w .cancel { w with consumer := { w.consumer with cancelled := true } }
  | stop (hTold : w.consumer.cancelled = true) (hPausing : w.consumer.phase ≠ .pausing)
      (hStopped : w.consumer.phase ≠ .stopped) : Step k server w .stop (w.enter .stopped)

theorem step_of_step? (h : w.step? k server e = some w') : Step k server w e w' := by
  rcases w with ⟨⟨phase, cancelled, attempts⟩, batch⟩
  cases e with
  | fetched result =>
    cases phase with
    | fetching =>
      rcases result with error | (_ | ⟨m, messages⟩)
      · cases h
        exact .failed error rfl
      · cases h
        exact .empty rfl
      · cases h
        exact .batch m messages rfl
    | _ => cases h
  | turn number =>
    cases phase with
    | processing messages =>
      obtain ⟨next, hNext, rfl⟩ := Option.map_eq_some_iff.mp h
      -- a turn that was possible is the one that traces go by
      have hTurn : batch.turn k number = next := by
        unfold Batch.turn
        rw [hNext]
        rfl
      rw [← hTurn]
      exact .turn number rfl
    | _ => cases h
  | finished =>
    obtain ⟨verdict, hVerdict, h⟩ := Option.bind_eq_some_iff.mp h
    obtain ⟨outcomes, hDone, rfl⟩ := Batch.verdict?_eq_some_iff.mp hVerdict
    cases phase with
    | processing messages =>
      cases h
      exact .finished rfl hDone
    | _ => cases h
  | settled =>
    cases phase with
    | settling messages left =>
      cases left with
      | nil => cases h
      | cons s left =>
        cases h
        exact .settled rfl
    | _ => cases h
  | resumed =>
    cases phase with
    | pausing =>
      cases h
      exact .resumed rfl
    | _ => cases h
  | cancel =>
    cases h
    exact .cancel
  | stop =>
    cases phase <;> cases cancelled <;> cases h <;> exact .stop rfl (by simp) (by simp)

/-! ## Accounts of runs -/

/-- The batches fetched so far, after one more event. -/
def note (w : Worker σ) (bs : List (Handling σ)) : Event → List (Handling σ)
  | .fetched (.ok (m :: messages)) => bs ++ [⟨m :: messages, w.batch.world, []⟩]
  | .turn number => bs.modifyLast fun b => { b with turns := b.turns ++ [number] }
  | _ => bs

/-- The batches that are fetched in a run, after those fetched before. -/
def handlings (k : Conditions σ) (server : Server) (w : Worker σ) (bs : List (Handling σ)) :
    List Event → List (Handling σ)
  | [] => bs
  | e :: events =>
    match w.step? k server e with
    | some w' => handlings k server w' (w.note bs e) events
    | none => bs

/-- What a worker is doing with its last batch, if that is not over, and the settlements it has made of
it. -/
inductive Stands (k : Conditions σ) (server : Server) :
    Phase → Batch σ → Option (Handling σ × List Settlement) → Prop
  | fetching {batch : Batch σ} : Stands k server .fetching batch none
  | pausing {batch : Batch σ} : Stands k server .pausing batch none
  | processing {batch : Batch σ} {b : Handling σ} (hBatch : batch = b.batch k server) :
    Stands k server (.processing b.messages) batch (some (b, []))
  | settling {batch : Batch σ} {b : Handling σ} {outcomes : List Outcome} {made : List Settlement}
      {s : Settlement} {left : List Settlement} (hReturns : b.Returns k server outcomes)
      (hMade : made ++ s :: left = (Verdict.ofOutcomes outcomes).settlements) :
    Stands k server (.settling b.messages (s :: left)) batch (some (b, made))
  | stopped {phase : Phase} {batch : Batch σ} {last : Option (Handling σ × List Settlement)}
      (h : Stands k server phase batch last) : Stands k server .stopped batch last

/-- The settlements of batches as a consumer notes them. -/
def attemptsOf (settled : List (Handling σ × List Settlement)) :
    List (List Message × Settlement) :=
  settled.flatMap fun x => x.2.map (x.1.messages, ·)

theorem attemptsOf_concat (settled : List (Handling σ × List Settlement))
    (b : Handling σ) (made : List Settlement) :
    attemptsOf (settled ++ [(b, made)]) = attemptsOf settled ++ made.map (b.messages, ·) := by
  simp [attemptsOf]

/-- Whether all settlements of a batch have been made, by the outcomes of its messages. -/
def IsWhole (k : Conditions σ) (server : Server) (x : Handling σ × List Settlement) : Prop :=
  ∃ outcomes, x.1.Returns k server outcomes ∧ x.2 = (Verdict.ofOutcomes outcomes).settlements

/-- Whether a worker has fetched these batches and made these settlements of them: all of every batch that
is over, and those of the last batch as far as it has come. -/
structure Accounts (k : Conditions σ) (server : Server) (w : Worker σ) (bs : List (Handling σ))
    (past : List (Handling σ × List Settlement)) (last : Option (Handling σ × List Settlement)) :
    Prop where
  batches : bs = (past ++ last.toList).map Prod.fst
  attempts : w.consumer.attempts = attemptsOf (past ++ last.toList)
  whole : ∀ x ∈ past, IsWhole k server x
  stands : Stands k server w.consumer.phase w.batch last

theorem accounts_start (k : Conditions σ) (server : Server) (w : World σ) :
    (start w).Accounts k server [] [] none :=
  ⟨rfl, rfl, fun _ hx => absurd hx List.not_mem_nil, .fetching⟩

variable {bs : List (Handling σ)} {past : List (Handling σ × List Settlement)}
  {last : Option (Handling σ × List Settlement)}

/-- With nothing left to settle the last batch is over. -/
theorem exists_stands_settle {b : Handling σ} {outcomes : List Outcome} {made left : List Settlement}
    (hWhole : ∀ x ∈ past, IsWhole k server x) (hReturns : b.Returns k server outcomes)
    (hMade : made ++ left = (Verdict.ofOutcomes outcomes).settlements) (batch : Batch σ) :
    ∃ past' last', past' ++ last'.toList = past ++ [(b, made)] ∧
      (∀ x ∈ past', IsWhole k server x) ∧
      Stands k server (.settle b.messages left) batch last' := by
  cases left with
  | nil =>
    refine ⟨past ++ [(b, made)], none, List.append_nil _, fun x hx => ?_, .fetching⟩
    rcases List.mem_append.mp hx with hx | hx
    · exact hWhole x hx
    · obtain rfl := List.mem_singleton.mp hx
      rw [List.append_nil] at hMade
      exact ⟨outcomes, hReturns, hMade⟩
  | cons s left => exact ⟨past, some (b, made), rfl, hWhole, .settling hReturns hMade⟩

/-- What one event keeps: the account, with the event noted. -/
theorem Accounts.step (h : w.Accounts k server bs past last) (hStep : Step k server w e w') :
    ∃ past' last', w'.Accounts k server (w.note bs e) past' last' := by
  obtain ⟨hBatches, hAttempts, hWhole, hStands⟩ := h
  cases hStep with
  | failed error hPhase =>
    rw [hPhase] at hStands
    cases hStands
    exact ⟨past, none, hBatches, hAttempts, hWhole, .pausing⟩
  | empty hPhase => exact ⟨past, last, hBatches, hAttempts, hWhole, hStands⟩
  | batch m messages hPhase =>
    -- between batches there is no last one, and now this is the last
    rw [hPhase] at hStands
    cases hStands
    have hStands : Stands k server (.processing (m :: messages))
        (.start server (m :: messages) w.batch.world)
        (some (⟨m :: messages, w.batch.world, []⟩, [])) :=
      .processing (b := ⟨m :: messages, w.batch.world, []⟩) rfl
    refine ⟨past, some (⟨m :: messages, w.batch.world, []⟩, []), ?_, ?_, hWhole, hStands⟩
    · simp [note, hBatches]
    · rw [Option.toList_none, List.append_nil] at hAttempts
      rw [Option.toList_some, attemptsOf_concat, List.map_nil, List.append_nil]
      exact hAttempts
  | turn number hPhase =>
    rw [hPhase] at hStands
    cases hStands with
    | @processing _ b hBatch =>
      have hTurn : w.batch.turn k number =
          { b with turns := b.turns ++ [number] }.batch k server := by
        rw [hBatch, Handling.batch_turn]
      have hStands : Stands k server w.consumer.phase (w.batch.turn k number)
          (some ({ b with turns := b.turns ++ [number] }, [])) := by
        rw [hPhase]
        exact .processing (b := { b with turns := b.turns ++ [number] }) hTurn
      refine ⟨past, some ({ b with turns := b.turns ++ [number] }, []), ?_, ?_, hWhole, hStands⟩
      · simp [note, hBatches, List.modifyLast_concat]
      · rw [Option.toList_some, attemptsOf_concat] at hAttempts ⊢
        exact hAttempts
  | finished hPhase hDone =>
    rw [hPhase] at hStands
    cases hStands with
    | @processing _ b hBatch =>
      rw [hBatch] at hDone
      obtain ⟨past', last', hSame, hWhole', hStands'⟩ :=
        exists_stands_settle hWhole hDone (List.nil_append _) w.batch
      refine ⟨past', last', ?_, ?_, hWhole', hStands'⟩
      · rw [hSame]
        exact hBatches
      · rw [hSame]
        exact hAttempts
  | settled hPhase =>
    rw [hPhase] at hStands
    cases hStands with
    | @settling _ b outcomes made _ _ hReturns hMade =>
      -- one of the settlements that are left is now among those that are made
      rw [List.append_cons] at hMade
      obtain ⟨past', last', hSame, hWhole', hStands'⟩ :=
        exists_stands_settle hWhole hReturns hMade w.batch
      rw [Option.toList_some, attemptsOf_concat] at hAttempts
      refine ⟨past', last', ?_, ?_, hWhole', hStands'⟩
      · rw [hSame, List.map_append]
        rw [Option.toList_some, List.map_append] at hBatches
        exact hBatches
      · rw [hSame, attemptsOf_concat, List.map_append, ← List.append_assoc, ← hAttempts]
        rfl
  | resumed hPhase =>
    rw [hPhase] at hStands
    cases hStands
    exact ⟨past, none, hBatches, hAttempts, hWhole, .fetching⟩
  | cancel => exact ⟨past, last, hBatches, hAttempts, hWhole, hStands⟩
  | stop => exact ⟨past, last, hBatches, hAttempts, hWhole, .stopped hStands⟩

/-- What a run keeps. -/
theorem Accounts.play {events : List Event} (h : w.Accounts k server bs past last)
    (hPlay : w.play? k server events = some w') :
    ∃ past' last', w'.Accounts k server (handlings k server w bs events) past' last' := by
  induction events generalizing w bs past last with
  | nil =>
    obtain rfl := Option.some.inj hPlay
    exact ⟨past, last, h⟩
  | cons e events ih =>
    obtain ⟨next, hNext, hPlay⟩ := Option.bind_eq_some_iff.mp hPlay
    obtain ⟨past', last', h'⟩ := h.step (step_of_step? hNext)
    rw [handlings, hNext]
    exact ih h' hPlay

/-- The settlements that were made of a batch are some of those by its outcomes. -/
theorem Stands.begun {phase : Phase} {batch : Batch σ} (h : Stands k server phase batch last)
    {x : Handling σ × List Settlement} (hx : last = some x) :
    x.2 = [] ∨ ∃ outcomes rest, x.1.Returns k server outcomes ∧
      x.2 ++ rest = (Verdict.ofOutcomes outcomes).settlements := by
  induction h with
  | fetching => cases hx
  | pausing => cases hx
  | processing =>
    cases hx
    exact Or.inl rfl
  | settling hReturns hMade =>
    cases hx
    exact Or.inr ⟨_, _, hReturns, hMade⟩
  | stopped _ ih => exact ih hx

/-- Nothing that is left to settle can hold up the rest, or the next fetch. -/
theorem exists_play?_settled {messages : List Message} {left : List Settlement}
    (h : w.consumer.phase = .settle messages left) :
    ∃ v, w.play? k server (List.replicate left.length .settled) = some v ∧
      v.consumer.phase = .fetching := by
  induction left generalizing w with
  | nil => exact ⟨w, rfl, h⟩
  | cons s left ih =>
    obtain ⟨v, hPlay, hPhase⟩ := ih (w := w.settle messages s left) rfl
    refine ⟨v, ?_, hPhase⟩
    have hStep : w.step? k server .settled = some (w.settle messages s left) := by
      have h : w.consumer.phase = .settling messages (s :: left) := h
      simp only [step?, Consumer.step?, h]
      rfl
    rw [List.length_cons, List.replicate_succ, play?, List.foldlM_cons, hStep]
    exact hPlay

/-- What a worker has answered is what it has answered for its batches. -/
theorem Accounts.replies_eq (h : w.Accounts k server bs past last) (policy : RedeliveryPolicy) :
    w.consumer.replies policy = (past ++ last.toList).flatMap fun x =>
      x.2.filterMap (Settlement.reply? policy x.1.messages) := by
  rw [Consumer.replies, h.attempts, attemptsOf, List.filterMap_flatMap]
  refine List.flatMap_congr fun x _ => ?_
  rw [List.filterMap_map]
  rfl

/-- Between its batches a worker is done with all of them. -/
theorem Accounts.eq_none_of_idle (h : w.Accounts k server bs past last)
    (hPhase : w.consumer.phase = .fetching ∨ w.consumer.phase = .pausing) : last = none := by
  have hStands := h.stands
  rcases hPhase with hPhase | hPhase
  · rw [hPhase] at hStands
    cases hStands
    rfl
  · rw [hPhase] at hStands
    cases hStands
    rfl

/-- Whatever was settled is one of the settlements by the outcomes of its batch, which all are there. -/
theorem Accounts.exists_mem_settlements (h : w.Accounts k server bs past last)
    {x : Handling σ × List Settlement} (hx : x ∈ past ++ last.toList) {s : Settlement} (hs : s ∈ x.2) :
    ∃ outcomes, x.1.Returns k server outcomes ∧ s ∈ (Verdict.ofOutcomes outcomes).settlements := by
  rcases List.mem_append.mp hx with hx | hx
  · obtain ⟨outcomes, hReturns, hMade⟩ := h.whole x hx
    exact ⟨outcomes, hReturns, hMade ▸ hs⟩
  · rcases h.stands.begun (Option.mem_toList.mp hx) with hNone | ⟨outcomes, rest, hReturns, hMade⟩
    · rw [hNone] at hs
      cases hs
    · exact ⟨outcomes, hReturns, hMade ▸ List.mem_append_left rest hs⟩

/-- Every message of a batch that was processed to the end is settled exactly once, as its handling has
ended, whatever else was fetched and whenever the worker was told to stop.  Of the last batch nothing is
settled before all its messages are handled, and no message is acknowledged but for its own outcome. -/
theorem settles_once {w : World σ} {events : List Event} (policy : RedeliveryPolicy)
    (h : (start w).play? k server events = some w') :
    ∃ past last,
      handlings k server (start w) [] events = (past ++ last.toList).map Prod.fst ∧
      w'.consumer.attempts = attemptsOf (past ++ last.toList) ∧
      w'.consumer.replies policy = (past ++ last.toList).flatMap (fun x =>
        x.2.filterMap (Settlement.reply? policy x.1.messages)) ∧
      (∀ x ∈ past, ∃ outcomes, x.1.Returns k server outcomes ∧
        outcomes.length = x.1.messages.length ∧ CarriesOut outcomes x.2 ∧
        x.2.filterMap (Settlement.reply? policy x.1.messages) =
          answers policy x.1.messages outcomes) ∧
      (∀ x, last = some x → x.2 = [] ∨ ∃ outcomes rest, x.1.Returns k server outcomes ∧
        outcomes.length = x.1.messages.length ∧ CarriesOut outcomes (x.2 ++ rest)) ∧
      (w'.consumer.phase = .fetching ∨ w'.consumer.phase = .pausing → last = none) ∧
      (∀ messages left, w'.consumer.phase = .settling messages left → ∃ v,
        w'.play? k server (List.replicate left.length .settled) = some v ∧
        v.consumer.phase = .fetching) ∧
      ∀ x ∈ past ++ last.toList, ∀ s ∈ x.2, s.positive = true →
        ∃ outcomes, x.1.Returns k server outcomes ∧ outcomes[s.number]? = some .ack := by
  obtain ⟨past, last, hAccounts⟩ := (accounts_start k server w).play h
  refine ⟨past, last, hAccounts.batches, hAccounts.attempts, hAccounts.replies_eq policy, ?_, ?_,
    hAccounts.eq_none_of_idle, ?_, ?_⟩
  · -- the batches of the past are settled as a whole
    intro x hx
    obtain ⟨outcomes, hReturns, hMade⟩ := hAccounts.whole x hx
    refine ⟨outcomes, hReturns, hReturns.length_eq, ?_, ?_⟩
    · rw [hMade]
      exact carriesOut_ofOutcomes outcomes
    · rw [hMade]
      exact replies_settlements policy x.1.messages outcomes
  · -- of the last batch, what has been settled is the beginning of what is to be
    intro x hx
    rcases hAccounts.stands.begun hx with hNone | ⟨outcomes, rest, hReturns, hMade⟩
    · exact Or.inl hNone
    · refine Or.inr ⟨outcomes, rest, hReturns, hReturns.length_eq, ?_⟩
      rw [hMade]
      exact carriesOut_ofOutcomes outcomes
  · -- a batch that is being settled has its outcomes, so that settling it goes on to its end
    intro messages left hPhase
    have hStands := hAccounts.stands
    rw [hPhase] at hStands
    cases hStands
    exact exists_play?_settled hPhase
  · -- an acknowledgement is of an outcome in the batch, settled as a whole or not
    intro x hx s hs hPositive
    obtain ⟨outcomes, hReturns, hMade⟩ := hAccounts.exists_mem_settlements hx hs
    exact ⟨outcomes, hReturns, (carriesOut_ofOutcomes outcomes).acknowledged hMade hPositive⟩

end Worker

namespace Sample

/-- Three messages: one of no event, one without a reply subject, and a status report. -/
def threeMessages : List Message :=
  [⟨"ns.none", [], some "first"⟩, ⟨"ns.none", [], none⟩, ⟨"ns.status", statusReport, some "third"⟩]

/-- The messages come after a failed and an empty fetch, and are processed to the end. -/
def oneBatch : List Worker.Event :=
  [.fetched (.error ⟨"down", []⟩), .resumed, .fetched (.ok []), .fetched (.ok threeMessages),
    .turn 2, .turn 2, .cancel, .turn 2, .turn 2, .finished, .settled, .settled, .settled]

/-- In the end the worker is back at its fetches, and has fetched this batch. -/
theorem oneBatch_ends :
    ((Worker.start deafWorld).play? Service.Sample.conditions ⟨.empty, .ofCodec⟩ oneBatch).map
        (·.consumer.phase) = some .fetching ∧
      (Worker.handlings Service.Sample.conditions ⟨.empty, .ofCodec⟩ (.start deafWorld) []
        oneBatch).map Handling.messages = [threeMessages] := by
  decide +kernel

end Sample

theorem Worker.settles_once_sample :
    ∃ w' outcomes,
      (start Sample.deafWorld).play? Service.Sample.conditions ⟨.empty, .ofCodec⟩ Sample.oneBatch =
        some w' ∧
      outcomes.length = 3 ∧
      w'.consumer.replies .standard = answers .standard Sample.threeMessages outcomes := by
  obtain ⟨w', hPlay, hPhase⟩ := Option.map_eq_some_iff.mp Sample.oneBatch_ends.1
  obtain ⟨past, last, hBatches, -, hReplies, hWhole, -, hIdle, -, -⟩ := settles_once .standard hPlay
  obtain rfl := hIdle (Or.inl hPhase)
  -- the account is of one batch, and that is over
  have hMessages := Sample.oneBatch_ends.2
  rw [hBatches, Option.toList_none, List.append_nil, List.map_map] at hMessages
  obtain ⟨x, rfl, hx⟩ := List.map_eq_singleton_iff.mp hMessages
  obtain ⟨outcomes, -, hLength, -, hAnswers⟩ := hWhole x (List.mem_singleton.mpr rfl)
  have hx : x.1.messages = Sample.threeMessages := hx
  rw [hx] at hLength hAnswers
  refine ⟨w', outcomes, hPlay, hLength, ?_⟩
  rw [hReplies, ← hAnswers]
  simp [hx]

end Lorawan.Ingress
