import Lorawan.Ingress.Batch
import Lorawan.Proofs.Service.Run

/-!
# Interleaved handlers

The handlers of a batch go forward one call at a time, in the order of their turns.  The *trace* of a
batch tells which handler had which exchange with the world they share.

* The whole trace is one played conversation, so all that is known of what conversations leave behind
  holds for batches (`Batch.plays_trace`).
* What one handler has in the trace is a conversation of this handler (`Batch.after_trace`).
* Every point of the trace is reached after some of the turns (`Batch.trace_eq_append_cons`).
-/

namespace Lorawan

/-- Whether a program has become another one after a conversation. -/
def Program.After {α : Type} : Program α → List Exchange → Program α → Prop
  | p, [], q => q = p
  | call c next, e :: es, q => ∃ answer, e = ⟨c, answer⟩ ∧ (next answer).After es q
  | done _, _ :: _, _ | abort, _ :: _, _ => False

@[simp] theorem Program.after_nil_iff {α : Type} {p q : Program α} : p.After [] q ↔ q = p := by
  cases p <;> exact Iff.rfl

theorem Program.After.asks {α : Type} {p : Program α} {es : List Exchange} {c : Call}
    {next : c.Answer → Program α} (h : p.After es (.call c next)) : p.Asks es c := by
  induction es generalizing p with
  | nil =>
    obtain rfl := Program.after_nil_iff.mp h
    exact Or.inl ⟨rfl, rfl⟩
  | cons e es ih =>
    cases p with
    | done a => exact h.elim
    | abort => exact h.elim
    | call c₀ next₀ =>
      obtain ⟨answer, rfl, h⟩ := h
      exact Or.inr ⟨answer, es, rfl, ih h⟩

namespace Ingress

/-- The handler of a request. -/
def handler (server : Server) (r : Request) : Program Outcome := do
  return .ofResult (← (server.handle r).program)

/-- A message that is a request is handled as that. -/
theorem route_eq_handler {server : Server} {subject : String} {payload : List UInt8} {r : Request}
    (h : request? subject payload = some r) : route server subject payload = handler server r := by
  unfold route
  rw [h]
  rfl

/-- What the handler of a request asks for is what the service asks for. -/
theorem asks_handler_iff {server : Server} {r : Request} {es : List Exchange} {c : Call} :
    (handler server r).Asks es c ↔ (server.handle r).Asks es c := by
  unfold handler
  rw [Program.asks_bind_iff]
  constructor
  · rintro (h | ⟨_, _, _, -, -, h⟩)
    · exact h
    · exact h.elim
  · exact Or.inl

/-- The result and the world after the run of a handler are those of the service. -/
theorem run_handler {σ : Type} (k : Conditions σ) (server : Server) (r : Request) (w : World σ) :
    w.run k (handler server r) =
      ((w.run k (server.handle r).program).1.map Outcome.ofResult,
        (w.run k (server.handle r).program).2) := by
  unfold handler World.run
  rw [Program.run_bind]
  rcases Program.run (World.answer k) (server.handle r).program w with ⟨_ | result, v⟩ <;> rfl

namespace Batch

variable {σ : Type} {k : Conditions σ} {b : Batch σ} {number : Nat}

/-! ## Turns -/

/-- The batch after a turn of a handler. -/
def turn (k : Conditions σ) (b : Batch σ) (number : Nat) : Batch σ := (b.step? k number).getD b

theorem play_cons (k : Conditions σ) (b : Batch σ) (number : Nat) (turns : List Nat) :
    b.play k (number :: turns) = (b.turn k number).play k turns := rfl

/-- The exchange that a handler has in its turn, if it is not done. -/
def exchange? (k : Conditions σ) (b : Batch σ) (number : Nat) : Option Exchange :=
  match b.handlers[number]? with
  | some (.call c _) => some ⟨c, (World.answer k c b.world).1⟩
  | _ => none

theorem answer_of_exchange? {e : Exchange} (h : b.exchange? k number = some e) :
    e.answer = (World.answer k e.call b.world).1 := by
  unfold exchange? at h
  split at h
  · cases h
    rfl
  · cases h

/-- A turn either changes nothing, or is one exchange of its handler with the world. -/
theorem turn_cases (k : Conditions σ) (b : Batch σ) (number : Nat) :
    (b.exchange? k number = none ∧ b.turn k number = b) ∨
      ∃ c next, b.handlers[number]? = some (.call c next) ∧
        b.exchange? k number = some ⟨c, (World.answer k c b.world).1⟩ ∧
        b.turn k number =
          ⟨b.handlers.set number (next (World.answer k c b.world).1), (World.answer k c b.world).2⟩ := by
  unfold turn step? exchange?
  rcases hHandler : b.handlers[number]? with _ | _ | _ | ⟨c, next⟩
  · exact Or.inl ⟨rfl, rfl⟩
  · exact Or.inl ⟨rfl, rfl⟩
  · exact Or.inl ⟨rfl, rfl⟩
  · exact Or.inr ⟨c, next, rfl, rfl, rfl⟩

theorem length_turn (k : Conditions σ) (b : Batch σ) (number : Nat) :
    (b.turn k number).handlers.length = b.handlers.length := by
  rcases turn_cases k b number with ⟨-, hSame⟩ | ⟨c, next, -, -, hTurn⟩
  · rw [hSame]
  · rw [hTurn, List.length_set]

/-- Handlers come and go only with their batch. -/
theorem length_play (k : Conditions σ) (b : Batch σ) (turns : List Nat) :
    (b.play k turns).handlers.length = b.handlers.length := by
  induction turns generalizing b with
  | nil => rfl
  | cons number turns ih => rw [play_cons, ih, length_turn]

/-! ## Traces -/

/-- The exchanges of a batch in the order of the turns, each with the number of its handler. -/
def trace (k : Conditions σ) : Batch σ → List Nat → List (Nat × Exchange)
  | _, [] => []
  | b, number :: turns =>
    ((b.exchange? k number).map (number, ·)).toList ++ trace k (b.turn k number) turns

/-- What one handler has in a trace. -/
def own (number : Nat) (t : List (Nat × Exchange)) : List Exchange :=
  t.filterMap fun x => if x.1 = number then some x.2 else none

/-- The trace of a batch is played in the world that the handlers share. -/
theorem plays_trace (k : Conditions σ) (b : Batch σ) (turns : List Nat) :
    World.Plays k b.world ((trace k b turns).map Prod.snd) (b.play k turns).world := by
  -- whoever has the turn, its exchange is the next one of the world
  induction turns generalizing b with
  | nil => exact rfl
  | cons number turns ih =>
    rw [trace, play_cons]
    rcases turn_cases k b number with ⟨hNone, hSame⟩ | ⟨c, next, -, hSome, hTurn⟩
    · rw [hNone, hSame]
      exact ih b
    · rw [hSome]
      refine ⟨rfl, ?_⟩
      have hWorld : (World.answer k c b.world).2 = (b.turn k number).world := by rw [hTurn]
      rw [hWorld]
      exact ih _

/-- What one handler has in the trace of a batch is a conversation of this handler. -/
theorem after_trace {p : Program Outcome} (turns : List Nat) (hp : b.handlers[number]? = some p) :
    ∃ q, (b.play k turns).handlers[number]? = some q ∧ p.After (own number (trace k b turns)) q := by
  -- by induction on the turns, for whatever the handler has still to do
  induction turns generalizing b p with
  | nil => exact ⟨p, hp, Program.after_nil_iff.mpr rfl⟩
  | cons first turns ih =>
    rw [trace, play_cons]
    rcases turn_cases k b first with ⟨hNone, hSame⟩ | ⟨c, next, hFirst, hSome, hTurn⟩
    · rw [hNone, hSame]
      exact ih hp
    rw [hSome]
    by_cases hOwn : first = number
    · -- the handler's own turn: it goes on with the answer
      subst hOwn
      rw [hFirst] at hp
      obtain rfl := Option.some.inj hp
      have hLater : (b.turn k first).handlers[first]? = some (next (World.answer k c b.world).1) := by
        have hBound : first < b.handlers.length := (List.getElem?_eq_some_iff.mp hFirst).1
        rw [hTurn]
        simp [hBound]
      obtain ⟨q, hq, hAfter⟩ := ih hLater
      refine ⟨q, hq, ?_⟩
      simp only [own, Option.map_some, Option.toList_some, List.singleton_append,
        List.filterMap_cons, if_pos]
      exact ⟨_, rfl, hAfter⟩
    · -- another handler's turn: the conversation is as it was
      have hLater : (b.turn k first).handlers[number]? = some p := by
        rw [hTurn]
        simp [hOwn, hp]
      obtain ⟨q, hq, hAfter⟩ := ih hLater
      refine ⟨q, hq, ?_⟩
      simpa [own, hOwn] using hAfter

/-- Before any exchange of a trace lie the turns that led there. -/
theorem trace_eq_append_cons {turns : List Nat} {before after : List (Nat × Exchange)}
    {e : Exchange} (h : trace k b turns = before ++ (number, e) :: after) :
    ∃ earlier later, turns = earlier ++ number :: later ∧ trace k b earlier = before ∧
      (b.play k earlier).exchange? k number = some e := by
  induction turns generalizing b before with
  | nil => simp [trace] at h
  | cons first turns ih =>
    rw [trace] at h
    rcases turn_cases k b first with ⟨hNone, -⟩ | ⟨c, next, -, hSome, -⟩
    · rw [hNone] at h
      obtain ⟨earlier, later, rfl, hBefore, hExchange⟩ := ih h
      refine ⟨first :: earlier, later, rfl, ?_, hExchange⟩
      rw [trace, hNone]
      exact hBefore
    · rw [hSome] at h
      -- the exchange is that of the first turn, or one of a later turn
      cases before with
      | nil =>
        obtain ⟨hx, -⟩ := List.cons.inj h
        cases hx
        exact ⟨[], turns, rfl, rfl, hSome⟩
      | cons y before =>
        obtain ⟨rfl, hRest⟩ := List.cons.inj h
        obtain ⟨earlier, later, rfl, hBefore, hExchange⟩ := ih hRest
        refine ⟨first :: earlier, later, rfl, ?_, hExchange⟩
        rw [trace, hSome, ← hBefore]
        rfl

/-- What comes before an exchange in a handler's conversation lies before it in the trace. -/
theorem own_eq_append_cons {t : List (Nat × Exchange)} {before after : List Exchange} {e : Exchange}
    (h : own number t = before ++ e :: after) :
    ∃ t₁ t₂, t = t₁ ++ (number, e) :: t₂ ∧ own number t₁ = before := by
  obtain ⟨t₁, rest, rfl, hBefore, hRest⟩ := List.filterMap_eq_append_iff.mp h
  obtain ⟨others, x, t₂, rfl, hOthers, hx, -⟩ := List.filterMap_eq_cons_iff.mp hRest
  obtain ⟨first, e'⟩ := x
  split at hx
  · next hFirst =>
    have hFirst : first = number := hFirst
    obtain rfl := hFirst
    cases hx
    refine ⟨t₁ ++ others, t₂, by simp, ?_⟩
    unfold own
    rw [List.filterMap_append, List.filterMap_eq_nil_iff.mpr hOthers, List.append_nil]
    exact hBefore
  · cases hx

theorem mem_own_iff {t : List (Nat × Exchange)} {e : Exchange} :
    e ∈ own number t ↔ (number, e) ∈ t := by
  unfold own
  rw [List.mem_filterMap]
  constructor
  · rintro ⟨⟨first, e'⟩, hx, hOwn⟩
    split at hOwn
    · next hFirst =>
      have hFirst : first = number := hFirst
      cases hOwn
      rw [← hFirst]
      exact hx
    · cases hOwn
  · intro h
    exact ⟨(number, e), h, if_pos rfl⟩

end Batch

end Ingress

end Lorawan
