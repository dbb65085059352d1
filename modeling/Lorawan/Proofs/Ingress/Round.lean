import Lorawan.Ingress.Round
import Mathlib.Data.List.Basic

/-!
# What a round settles

A round comes to an end whatever it is answered, and fails only when its fetch fails.  It attempts to
settle each message as often as the verdict lists it, acknowledgements first, and each group in the order of
its list.  It does so however the single attempts end, and numbers that no message has are passed over.

* **Ways**: `Round.Leads` says how a round goes on with the answers it gets.  The ways through a whole
  round are those that `IsRound` lists (`Round.leads_whole_iff`), and wherever a round is, it can be brought
  to its end (`Round.exists_leads_done`).
* **Attempts**: `Verdict.attempts` are the settlements that a verdict lists, and a round attempts just those
  (`IsRound.attempts_eq`).  A processor that fails has each message of the batch settled once
  (`attempts_verdictOf_error`).
-/

namespace Lorawan.Ingress

open Consumer (verdictOf)

/-! ## Deeds -/

/-- The message that is to be settled, and what is to be answered for it. -/
def Ask.attempt? : Ask → Option (Message × String)
  | .settle m body => some (m, body)
  | _ => none

namespace Deed

/-- What was asked. -/
def ask? : Deed → Option Ask
  | .asked a _ => some a
  | .paused _ => none

/-- The settlement that a deed attempts, whether it is done or fails. -/
def attempt? (d : Deed) : Option (Message × String) := d.ask?.bind Ask.attempt?

theorem exists_answer_of_ask? {d : Deed} {a : Ask} (h : d.ask? = some a) :
    ∃ answer, d = .asked a answer := by
  cases d with
  | asked a' answer =>
    obtain rfl := Option.some.inj h
    exact ⟨answer, rfl⟩
  | paused ms => cases h

end Deed

/-! ## Ways through a round -/

/-- Whatever is asked for can be answered. -/
instance (a : Ask) : Nonempty a.Answer :=
  match a with
  | .fetch .. => ⟨.ok []⟩
  | .process _ => ⟨.ok .empty⟩
  | .settle .. => ⟨.ok ()⟩
  | .warn _ => ⟨()⟩

namespace Round

variable {r r' r'' : Round} {a : Ask} {next : a.Answer → Round} {deeds deeds' : List Deed}
  {result result' : Except ErrorChain Unit}

/-- Whether a round goes on as another one after it has asked and was answered so. -/
inductive Leads : Round → List Deed → Round → Prop
  | here (r : Round) : Leads r [] r
  | ask {a : Ask} {next : a.Answer → Round} {deeds : List Deed} {r : Round} (answer : a.Answer)
      (h : Leads (next answer) deeds r) :
    Leads (.ask a next) (.asked a answer :: deeds) r

theorem Leads.trans (h : r.Leads deeds r') (h' : r'.Leads deeds' r'') :
    r.Leads (deeds ++ deeds') r'' := by
  induction h with
  | here r => exact h'
  | ask answer _ ih => exact .ask answer (ih h')

/-- One more answer leads on. -/
theorem Leads.concat (h : r.Leads deeds (.ask a next)) (answer : a.Answer) :
    r.Leads (deeds ++ [.asked a answer]) (next answer) :=
  h.trans (.ask answer (.here _))

theorem leads_done_iff : (Round.done result).Leads deeds r ↔ deeds = [] ∧ r = .done result := by
  constructor
  · intro h
    cases h
    exact ⟨rfl, rfl⟩
  · rintro ⟨rfl, rfl⟩
    exact .here _

theorem leads_ask_done_iff : (Round.ask a next).Leads deeds (.done result) ↔
    ∃ answer rest, deeds = .asked a answer :: rest ∧ (next answer).Leads rest (.done result) := by
  constructor
  · intro h
    cases h with
    | ask answer h => exact ⟨answer, _, rfl, h⟩
  · rintro ⟨answer, rest, rfl, h⟩
    exact .ask answer h

/-- Every round comes to an end. -/
theorem exists_leads_done (r : Round) : ∃ deeds result, r.Leads deeds (.done result) := by
  induction r with
  | done result => exact ⟨[], result, .here _⟩
  | ask a next ih =>
    -- any answer will do
    obtain ⟨answer⟩ : Nonempty a.Answer := inferInstance
    obtain ⟨deeds, result, h⟩ := ih answer
    exact ⟨.asked a answer :: deeds, result, .ask answer h⟩

/-- A round that first asks for all this, whatever it is answered. -/
def asking : List Ask → Round → Round
  | [], next => next
  | a :: rest, next => .ask a fun _ => asking rest next

theorem asking_append (asks asks' : List Ask) (next : Round) :
    asking (asks ++ asks') next = asking asks (asking asks' next) := by
  induction asks with
  | nil => rfl
  | cons a asks ih =>
    rw [List.cons_append, asking, asking]
    simp only [ih]

/-- It ends as what it goes on with, and has asked for all of it in this order. -/
theorem leads_asking_iff {asks : List Ask} :
    (asking asks (.done result)).Leads deeds (.done result') ↔
      deeds.map Deed.ask? = asks.map some ∧ result' = result := by
  induction asks generalizing deeds with
  | nil => simp [asking, leads_done_iff]
  | cons a asks ih =>
    -- nothing depends on the first answer, so the rest is a way through what else is asked
    rw [asking, leads_ask_done_iff, List.map_cons]
    constructor
    · rintro ⟨answer, rest, rfl, h⟩
      obtain ⟨hAsks, hResult⟩ := ih.mp h
      exact ⟨by rw [List.map_cons, hAsks]; rfl, hResult⟩
    · rintro ⟨hAsks, hResult⟩
      obtain ⟨d, rest, rfl, hAsk, hRest⟩ := List.map_eq_cons_iff.mp hAsks
      obtain ⟨answer, rfl⟩ := Deed.exists_answer_of_ask? hAsk
      exact ⟨answer, rest, rfl, ih.mpr ⟨hRest, hResult⟩⟩

end Round

/-- What is asked to carry out a settlement: to settle the message, or to warn if there is none. -/
def Settlement.ask (c : Config) (batch : List Message) (s : Settlement) : Ask :=
  match batch[s.number]? with
  | some m => .settle m (s.body c.redelivery)
  | none => .warn s

theorem Settlement.attempt?_ask (c : Config) (batch : List Message) (s : Settlement) :
    (s.ask c batch).attempt? = batch[s.number]?.map (·, s.body c.redelivery) := by
  unfold ask
  cases batch[s.number]? with
  | none => rfl
  | some m => rfl

namespace Round

variable {c : Config} {batch : List Message}

theorem settleEach_eq (positive : Bool) (numbers : List Nat) (next : Round) :
    settleEach c batch positive numbers next =
      asking (numbers.map fun number => Settlement.ask c batch ⟨number, positive⟩) next := by
  induction numbers with
  | nil => rfl
  | cons number numbers ih =>
    simp only [settleEach, List.map_cons, asking, Settlement.ask, ih]
    cases batch[number]? with
    | none => rfl
    | some m => rfl

/-- To carry out a verdict is to ask for its settlements in order. -/
theorem settle_eq (v : Verdict) :
    settle c batch v = asking (v.settlements.map (·.ask c batch)) (.done (.ok ())) := by
  rw [settle, settleEach_eq, settleEach_eq, ← asking_append, Verdict.settlements, List.map_append,
    List.map_map, List.map_map, List.map_map]
  rfl

end Round

/-- The ways through a whole round, each with its end: the fetch fails, or brings nothing, or brings a
batch that is processed and then settled by the verdict.  No answer to a settlement changes the way. -/
inductive IsRound (c : Config) : List Deed → Except ErrorChain Unit → Prop
  | failed (e : ErrorChain) :
    IsRound c [.asked (.fetch c.batchSize c.batchWaitMs) (.error e)] (.error e)
  | empty : IsRound c [.asked (.fetch c.batchSize c.batchWaitMs) (.ok [])] (.ok ())
  | settled {batch : List Message} (hBatch : batch ≠ []) (result : Except ErrorChain Verdict)
      {settling : List Deed} (h : settling.map Deed.ask? =
        (verdictOf batch.length result).settlements.map fun s => some (s.ask c batch)) :
    IsRound c
      (.asked (.fetch c.batchSize c.batchWaitMs) (.ok batch) :: .asked (.process batch) result ::
        settling)
      (.ok ())

/-- The ways through a whole round are these. -/
theorem Round.leads_whole_iff {c : Config} {deeds : List Deed} {result : Except ErrorChain Unit} :
    (whole c).Leads deeds (.done result) ↔ IsRound c deeds result := by
  rw [whole, leads_ask_done_iff]
  constructor
  · rintro ⟨answer, rest, rfl, h⟩
    -- what the fetch brings decides which way it is
    rcases answer with e | _ | ⟨m, batch⟩
    · obtain ⟨rfl, hResult⟩ := leads_done_iff.mp h
      obtain rfl := Round.done.inj hResult
      exact .failed e
    · obtain ⟨rfl, hResult⟩ := leads_done_iff.mp h
      obtain rfl := Round.done.inj hResult
      exact .empty
    · obtain ⟨verdict, settling, rfl, hSettle⟩ := leads_ask_done_iff.mp h
      rw [settle_eq] at hSettle
      obtain ⟨hAsks, rfl⟩ := leads_asking_iff.mp hSettle
      rw [List.map_map] at hAsks
      exact .settled (List.cons_ne_nil m batch) verdict hAsks
  · intro h
    cases h with
    | failed e => exact ⟨.error e, [], rfl, .here _⟩
    | empty => exact ⟨.ok [], [], rfl, .here _⟩
    | @settled batch hBatch verdict settling hAsks =>
      obtain ⟨m, batch, rfl⟩ := List.exists_cons_of_ne_nil hBatch
      refine ⟨.ok (m :: batch), _, rfl, leads_ask_done_iff.mpr ⟨verdict, settling, rfl, ?_⟩⟩
      rw [settle_eq, leads_asking_iff, List.map_map]
      exact ⟨hAsks, rfl⟩

/-! ## Attempts -/

/-- What is answered for a message that is to be delivered again: the delay in nanoseconds. -/
def RedeliveryPolicy.nakBody (policy : RedeliveryPolicy) : String :=
  "-NAK \x7b\"delay\":" ++ toString (policy.nakDelayMs * 1000000) ++ "\x7d"

/-- The settlements that a verdict lists, in order: one for every number that a message has, first of those
to be acknowledged, then of those to be delivered again. -/
def Verdict.attempts (policy : RedeliveryPolicy) (batch : List Message) (v : Verdict) :
    List (Message × String) :=
  (v.ack.filterMap (batch[·]?)).map (·, "") ++
    ((v.nak.map Prod.fst).filterMap (batch[·]?)).map (·, policy.nakBody)

/-- Only messages that are listed are settled. -/
theorem Verdict.exists_listed {policy : RedeliveryPolicy} {batch : List Message} {v : Verdict}
    {x : Message × String} (h : x ∈ v.attempts policy batch) :
    ∃ number ∈ v.ack ++ v.nak.map Prod.fst, batch[number]? = some x.1 := by
  rcases List.mem_append.mp h with h | h
  · obtain ⟨m, hm, rfl⟩ := List.mem_map.mp h
    obtain ⟨number, hNumber, hm⟩ := List.mem_filterMap.mp hm
    exact ⟨number, List.mem_append_left _ hNumber, hm⟩
  · obtain ⟨m, hm, rfl⟩ := List.mem_map.mp h
    obtain ⟨number, hNumber, hm⟩ := List.mem_filterMap.mp hm
    exact ⟨number, List.mem_append_right _ hNumber, hm⟩

/-- The settlements of a verdict, as far as there are messages for them. -/
theorem Verdict.filterMap_settlements (c : Config) (batch : List Message) (v : Verdict) :
    v.settlements.filterMap (fun s => (s.ask c batch).attempt?) = v.attempts c.redelivery batch := by
  simp only [Settlement.attempt?_ask]
  rw [settlements, List.filterMap_append, List.filterMap_map, List.filterMap_map, attempts,
    List.map_filterMap, List.map_filterMap, List.filterMap_map]
  rfl

/-- A round attempts what the verdict lists, whatever comes of the attempts. -/
theorem IsRound.attempts_eq {c : Config} {batch : List Message} {result : Except ErrorChain Verdict}
    {settling : List Deed} {fetched : Except ErrorChain (List Message)} {ended : Except ErrorChain Unit}
    (h : IsRound c (.asked (.fetch c.batchSize c.batchWaitMs) fetched ::
      .asked (.process batch) result :: settling) ended) :
    settling.filterMap Deed.attempt? =
      (verdictOf batch.length result).attempts c.redelivery batch := by
  cases h with
  | settled hBatch _ hAsks =>
    have hAttempts : settling.filterMap Deed.attempt? =
        (settling.map Deed.ask?).filterMap (Option.bind · Ask.attempt?) := by
      rw [List.filterMap_map]
      rfl
    rw [hAttempts, hAsks, List.filterMap_map, ← Verdict.filterMap_settlements]
    rfl

theorem filterMap_getElem?_range {α : Type} (xs : List α) :
    (List.range xs.length).filterMap (xs[·]?) = xs := by
  induction xs with
  | nil => rfl
  | cons x xs ih =>
    -- all but the first are found one place further on
    rw [List.length_cons, List.range_succ_eq_map, List.filterMap_cons, List.filterMap_map]
    have hRest : (List.range xs.length).filterMap ((fun i => (x :: xs)[i]?) ∘ Nat.succ) = xs := ih
    rw [hRest]
    rfl

/-- A processor that fails has each message settled once, in the order of the batch, so that it is
delivered again. -/
theorem attempts_verdictOf_error (policy : RedeliveryPolicy) (batch : List Message) (e : ErrorChain) :
    (verdictOf batch.length (.error e)).attempts policy batch = batch.map (·, policy.nakBody) := by
  have hNumbers : (verdictOf batch.length (.error e)).nak.map Prod.fst = List.range batch.length := by
    rw [verdictOf, Verdict.nakAll, List.map_map]
    exact List.map_id _
  rw [Verdict.attempts, hNumbers, filterMap_getElem?_range]
  rfl

end Lorawan.Ingress
