import Lorawan.Proofs.Ingress.Provenance
import Lorawan.Proofs.Ingress.Settlement
import Lorawan.Proofs.Service.Locality
import Mathlib.Data.Set.List

/-!
# Messages of different devices are independent

The handlers of a batch share one store, one numbering of activations, one clock and one outside.  Still a
handler has to do with the device of its message only (`Batch.Apart`), so that handlers of different
devices do not notice each other.

* **Any failures**: a turn of a handler leaves the rows and activations of all other devices as they are,
  and tells the outside of nothing but its own device.
* **No failures**: what a handler does in an interleaving is what it does alone, with the same clock
  readings and in any store that agrees on the slice of its device (`Batch.Apart.alone`).  So all
  interleavings of a batch without two messages for one device come to the same as its messages one after
  the other, in any order.

Both together are `devices_independent`.
-/

namespace Lorawan.Ingress

/-- The device that a message names, if it is a request. -/
def deviceOf? (messages : List Message) (number : Nat) : Option Eui64 := do
  let m ← messages[number]?
  return (← request? m.subject m.payload).devEui

theorem deviceOf?_eq_some_iff {messages : List Message} {number : Nat} {id : Eui64} :
    deviceOf? messages number = some id ↔ ∃ m r, messages[number]? = some m ∧
      IsRequest m.subject m.payload r ∧ r.devEui = id := by
  simp [deviceOf?, Option.bind_eq_some_iff, request?_eq_some_iff]

namespace Batch

variable {σ : Type} {k : Conditions σ} {s : Store} {owner : Nat → Option Eui64} {b : Batch σ}
  {number : Nat} {id : Eui64}

/-! ## Turns -/

section Turns

variable {c : Call} {next : c.Answer → Program Outcome}

/-- A handler that makes a call goes on with the answer. -/
theorem turn_of_call (k : Conditions σ) (hp : b.handlers[number]? = some (.call c next)) :
    b.turn k number =
      ⟨b.handlers.set number (next (World.answer k c b.world).1), (World.answer k c b.world).2⟩ := by
  unfold turn step?
  rw [hp]
  rfl

theorem handlers_turn_self (k : Conditions σ) (hp : b.handlers[number]? = some (.call c next)) :
    (b.turn k number).handlers[number]? = some (next (World.answer k c b.world).1) := by
  rw [turn_of_call k hp]
  exact List.getElem?_set_self (List.getElem?_eq_some_iff.mp hp).1

theorem handlers_turn_other {first : Nat} (k : Conditions σ) (hOther : first ≠ number) :
    (b.turn k first).handlers[number]? = b.handlers[number]? := by
  rcases turn_cases k b first with ⟨-, hSame⟩ | ⟨c, next, -, -, hTurn⟩
  · rw [hSame]
  · rw [hTurn]
    exact List.getElem?_set_ne hOther

end Turns

/-! ## Handlers that keep apart -/

/-- Whether the handlers of a batch keep to their owners: each to the device of its number, and one
without a device is done.  The store is one that this one may have become. -/
structure Apart (s : Store) (owner : Nat → Option Eui64) (b : Batch σ) : Prop where
  base : s.IsBuilt
  built : b.world.store.IsBuilt
  setting : s.SameSetting b.world.store
  owned : ∀ number p id, b.handlers[number]? = some p → owner number = some id →
    p.KeepsTo s id Eq p
  unowned : ∀ number p, b.handlers[number]? = some p → owner number = none → ∃ o, p = .done o

/-- In its turn a handler does nothing, or it has a device and makes a call about it. -/
theorem Apart.turn_cases (h : Apart s owner b) (k : Conditions σ) (number : Nat) :
    b.turn k number = b ∨ ∃ id c next, owner number = some id ∧ c.IsOf s id ∧
      b.handlers[number]? = some (.call c next) ∧
      (b.turn k number).world = (World.answer k c b.world).2 := by
  rcases Batch.turn_cases k b number with ⟨-, hSame⟩ | ⟨c, next, hHandler, -, hTurn⟩
  · exact Or.inl hSame
  have hWorld : (b.turn k number).world = (World.answer k c b.world).2 := by rw [hTurn]
  cases hOwner : owner number with
  | none =>
    obtain ⟨o, ho⟩ := h.unowned number _ hHandler hOwner
    cases ho
  | some id =>
    have hKeeps := h.owned number _ id hHandler hOwner
    cases hKeeps with
    | call hOf _ => exact Or.inr ⟨id, c, next, rfl, hOf, hHandler, hWorld⟩

theorem Apart.turn (h : Apart s owner b) (k : Conditions σ) (number : Nat) :
    Apart s owner (b.turn k number) := by
  rcases h.turn_cases k number with hSame | ⟨id, c, next, hOwner, -, hHandler, hWorld⟩
  · rwa [hSame]
  have hPlays : World.Plays k b.world [⟨c, (World.answer k c b.world).1⟩]
      (World.answer k c b.world).2 := ⟨rfl, rfl⟩
  have hStep := hPlays.sameSetting
  refine {
    base := h.base
    built := hWorld ▸ World.answer_isBuilt k c h.built
    setting := hWorld ▸ {
      applications := hStep.applications.trans h.setting.applications
      devices := fun id => (hStep.devices id).trans (h.setting.devices id) }
    owned := fun number' p id' hp hOwner' => ?_
    unowned := fun number' p hp hOwner' => ?_ }
  -- the handler that has had its turn goes on, and all others are as they were
  · rcases eq_or_ne number number' with rfl | hOther
    · rw [handlers_turn_self k hHandler] at hp
      cases hp
      obtain rfl : id' = id := Option.some.inj (hOwner'.symm.trans hOwner)
      have hKeeps := h.owned number _ id' hHandler hOwner
      cases hKeeps with
      | call hOf hNext => exact hNext _ _ (World.answer_fits k h.base h.setting hOf) rfl
    · rw [handlers_turn_other k hOther] at hp
      exact h.owned number' p id' hp hOwner'
  · rcases eq_or_ne number number' with rfl | hOther
    · rw [hOwner] at hOwner'
      cases hOwner'
    · rw [handlers_turn_other k hOther] at hp
      exact h.unowned number' p hp hOwner'

theorem Apart.play (h : Apart s owner b) (k : Conditions σ) (turns : List Nat) :
    Apart s owner (b.play k turns) := by
  induction turns generalizing b with
  | nil => exact h
  | cons number turns ih => exact ih (h.turn k number)

/-- The handlers of some messages keep to the devices that the messages name. -/
theorem start_apart (server : Server) (messages : List Message) {w : World σ}
    (hBuilt : w.store.IsBuilt) : Apart w.store (deviceOf? messages) (start server messages w) := by
  have hHandler : ∀ (number : Nat) p, (start server messages w).handlers[number]? = some p →
      ∃ m : Message, messages[number]? = some m ∧ route server m.subject m.payload = p := by
    intro number p hp
    simpa [start] using hp
  refine {
    base := hBuilt
    built := hBuilt
    setting := ⟨rfl, fun _ => rfl⟩
    owned := fun number p id hp hOwner => ?_
    unowned := fun number p hp hOwner => ?_ }
  · obtain ⟨m, hMessage, rfl⟩ := hHandler number p hp
    obtain ⟨m', r, hMessage', hRequest, rfl⟩ := deviceOf?_eq_some_iff.mp hOwner
    obtain rfl : m' = m := Option.some.inj (hMessage'.symm.trans hMessage)
    -- a message that can be read is left to its handler, and the reply depends on how that ended
    rw [route_eq_handler (request?_eq_some_iff.mpr hRequest)]
    refine Program.KeepsTo.bind (server.handle_keepsTo hBuilt r) fun a b hAlike => ?_
    cases hAlike with
    | ok hSame =>
      obtain ⟨rfl, -⟩ := hSame
      exact .done rfl
    | error e => exact .done rfl
  · obtain ⟨m, hMessage, rfl⟩ := hHandler number p hp
    -- one that cannot is acknowledged without a call
    have hNone : request? m.subject m.payload = none := by
      refine Option.eq_none_iff_forall_ne_some.mpr fun r hRequest => ?_
      simp [deviceOf?, hMessage, hRequest] at hOwner
    refine ⟨.ack, ?_⟩
    unfold route
    rw [hNone]

/-- Whether a turn of a handler has to do with its own device only: all other devices keep their rows and
their activations, and what the turn tells the outside is about this device. -/
structure KeepsToDevice (s : Store) (device : Option Eui64) (v v' : World σ) : Prop where
  rows : ∀ id, device ≠ some id → v'.store.getDevice id = v.store.getDevice id
  activations : ∀ id, device ≠ some id → v'.store.activationsOf id = v.store.activationsOf id
  effects : ∃ new, v'.effects = v.effects ++ new ∧ ∀ x ∈ new, ∃ id, device = some id ∧ x.IsOf s id

theorem Apart.keepsToDevice (h : Apart s owner b) (k : Conditions σ) (number : Nat) :
    KeepsToDevice s (owner number) b.world (b.turn k number).world := by
  rcases h.turn_cases k number with hSame | ⟨own, c, next, hOwner, hOf, -, hWorld⟩
  · rw [hSame]
    exact ⟨fun _ _ => rfl, fun _ _ => rfl, [], (List.append_nil _).symm, nofun⟩
  have hOther : ∀ {id}, owner number ≠ some id → own ≠ id := by
    rintro id hNot rfl
    exact hNot hOwner
  have hEffects := World.answer_effects k c b.world
  rw [hWorld]
  exact {
    rows := fun id hNot => World.answer_getDevice_other k b.world hOf (hOther hNot)
    activations := fun id hNot => World.answer_activationsOf_other k b.world hOf (hOther hNot)
    effects := ⟨_, hEffects, fun x hx => ⟨own, hOwner, hOf.effect (Option.mem_toList.mp hx)⟩⟩ }

/-- A turn of a handler leaves the slices of all devices but its own as they are. -/
theorem Apart.slice_turn (h : Apart s owner b) (k : Conditions σ) (number : Nat)
    (hOwner : owner number ≠ some id) :
    (b.turn k number).world.store.slice id = b.world.store.slice id := by
  rcases h.turn_cases k number with hSame | ⟨own, c, next, hOwn, hOf, -, hWorld⟩
  · rw [hSame]
  · have hOther : own ≠ id := by
      rintro rfl
      exact hOwner hOwn
    rw [hWorld]
    exact World.answer_slice_other k b.world hOf hOther

/-- A device that no message names keeps its slice. -/
theorem Apart.slice_play (h : Apart s owner b) (k : Conditions σ) (turns : List Nat)
    (hOwner : ∀ number, owner number ≠ some id) :
    (b.play k turns).world.store.slice id = b.world.store.slice id := by
  induction turns generalizing b with
  | nil => rfl
  | cons number turns ih => rw [play_cons, ih (h.turn k number), h.slice_turn k number (hOwner number)]

/-! ## A handler alone -/

@[simp] theorem own_cons_self (number : Nat) (e : Exchange) (t : List (Nat × Exchange)) :
    own number ((number, e) :: t) = e :: own number t := by
  simp [own]

theorem own_cons_other {first : Nat} (h : first ≠ number) (e : Exchange)
    (t : List (Nat × Exchange)) : own number ((first, e) :: t) = own number t := by
  simp [own, h]

/-- The turn of a handler that makes a call begins what it has in the trace. -/
theorem own_trace_self {c : Call} {next : c.Answer → Program Outcome} (k : Conditions σ)
    (hp : b.handlers[number]? = some (.call c next)) (turns : List Nat) :
    own number (b.trace k (number :: turns)) =
      ⟨c, (World.answer k c b.world).1⟩ :: own number ((b.turn k number).trace k turns) := by
  have hExchange : b.exchange? k number = some ⟨c, (World.answer k c b.world).1⟩ := by
    unfold exchange?
    rw [hp]
  rw [trace, hExchange]
  exact own_cons_self number _ _

theorem own_trace_other {first : Nat} (k : Conditions σ) (hOther : first ≠ number)
    (turns : List Nat) :
    own number (b.trace k (first :: turns)) = own number ((b.turn k first).trace k turns) := by
  rw [trace]
  cases b.exchange? k first with
  | none => rfl
  | some e => exact own_cons_other hOther e _

/-- The times that the clock has shown to one handler in a trace. -/
def readings (number : Nat) (t : List (Nat × Exchange)) : List Time.Instant :=
  (own number t).filterMap Exchange.reading?

/-- The effects of one handler in a trace. -/
def ownEffects (number : Nat) (t : List (Nat × Exchange)) : List Effect :=
  (own number t).filterMap Exchange.effect?

theorem filterMap_cons_toList {α β : Type} (f : α → Option β) (a : α) (as : List α) :
    (a :: as).filterMap f = (f a).toList ++ as.filterMap f := by
  rw [List.filterMap_cons]
  cases f a <;> rfl

/-- Whether a run with given times is what a handler does that keeps to a device, if it has one: with this
outcome, these effects, and the slice of the device as it is in the end in some store. -/
structure RunsAlone (device : Option Eui64) (o : Outcome) (effects : List Effect) (final : Store)
    (times : List Time.Instant) (v : World (List Time.Instant)) (p : Program Outcome)
    (v' : World (List Time.Instant)) : Prop where
  run : v.run .given p = (some o, v')
  state : v'.state = times
  effects : v'.effects = v.effects ++ effects
  built : v'.store.IsBuilt
  own : ∀ id, device = some id → v'.store.slice id = final.slice id
  others : ∀ id, device ≠ some id → v'.store.slice id = v.store.slice id

/-- A run of what follows an answer is a run of the call: what the call changes is of its device, and its
effect comes first. -/
theorem RunsAlone.call {c : Call} {next : c.Answer → Program Outcome} {o : Outcome} {e : Exchange}
    {effects : List Effect} {final : Store} {times : List Time.Instant}
    {v v' : World (List Time.Instant)}
    (h : RunsAlone (some id) o effects final times (World.answer .given c v).2
      (next (World.answer .given c v).1) v') (hOf : c.IsOf s id)
    (hEffect : (⟨c, (World.answer .given c v).1⟩ : Exchange).effect? = e.effect?) :
    RunsAlone (some id) o (e.effect?.toList ++ effects) final times v (.call c next) v' := by
  refine { h with
    run := h.run
    effects := ?_
    others := fun other hOther => ?_ }
  · rw [h.effects, World.answer_effects, hEffect, List.append_assoc]
  · rw [h.others other hOther]
    exact World.answer_slice_other .given v hOf fun hId => hOther (congrArg some hId)

/-- What a handler of a device does in turns with others it does alone, if nothing fails, no other handler
has its device, and the clock shows it the same times. -/
theorem Apart.alone (h : Apart s owner b) (hk : k.Calm) (turns : List Nat)
    (hOnly : ∀ number', owner number' = some id → number' = number)
    {p p' : Program Outcome} {o : Outcome} (hOwner : owner number = some id)
    (hp : b.handlers[number]? = some p) (hKeeps : p.KeepsTo s id Eq p')
    (hDone : (b.play k turns).handlers[number]? = some (.done o))
    {v : World (List Time.Instant)} {times : List Time.Instant} (hBuilt : v.store.IsBuilt)
    (hSlice : v.store.slice id = b.world.store.slice id)
    (hTimes : v.state = readings number (b.trace k turns) ++ times) :
    ∃ v', RunsAlone (some id) o (ownEffects number (b.trace k turns)) (b.play k turns).world.store times
      v p' v' := by
  -- along the turns: those of the others do not concern the device, its own are answered alike
  induction turns generalizing b p p' v with
  | nil =>
    obtain rfl : p = .done o := Option.some.inj (hp.symm.trans hDone)
    cases hKeeps with
    | done hSame =>
      obtain rfl := hSame
      refine ⟨v, {
        run := rfl
        state := hTimes
        effects := (List.append_nil _).symm
        built := hBuilt
        own := fun id' hId => ?_
        others := fun _ _ => rfl }⟩
      obtain rfl := Option.some.inj hId
      exact hSlice
  | cons first turns ih =>
    have hLater := h.turn k first
    rw [play_cons] at hDone ⊢
    by_cases hOwn : first = number
    · subst hOwn
      rcases Batch.turn_cases k b first with ⟨hNone, hSame⟩ | ⟨c, next, hHandler, -, -⟩
      · rw [trace, hNone, hSame] at hTimes ⊢
        rw [hSame] at hDone
        exact ih h hp hKeeps hDone hBuilt hSlice hTimes
      obtain rfl : p = .call c next := Option.some.inj (hp.symm.trans hHandler)
      have hWorld : (b.turn k first).world = (World.answer k c b.world).2 := by
        rw [turn_of_call k hHandler]
      cases hKeeps with
      | call hOf hNext =>
        rw [readings, own_trace_self k hHandler, filterMap_cons_toList, List.append_assoc] at hTimes
        obtain ⟨hAlike, hState⟩ := World.answer_slice_own hk hOf h.built hBuilt hSlice hTimes
        have hFits := World.answer_fits k h.base h.setting hOf
        obtain ⟨v', hRest⟩ := ih hLater (handlers_turn_self k hHandler)
          (hNext _ _ hFits hAlike.answer) hDone (World.answer_isBuilt .given c hBuilt)
          (hWorld ▸ hAlike.slice) hState
        rw [ownEffects, own_trace_self k hHandler, filterMap_cons_toList]
        exact ⟨v', hRest.call hOf hAlike.effect⟩
    · have hWaits : (b.turn k first).handlers[number]? = some p :=
        (handlers_turn_other k hOwn).trans hp
      have hSliceAfter : v.store.slice id = (b.turn k first).world.store.slice id := by
        rw [h.slice_turn k first fun hFirst => hOwn (hOnly first hFirst)]
        exact hSlice
      rw [readings, own_trace_other k hOwn] at hTimes
      rw [ownEffects, own_trace_other k hOwn]
      exact ih hLater hWaits hKeeps hDone hBuilt hSliceAfter hTimes

/-- A handler that is done at the start has nothing in a trace. -/
theorem own_eq_nil_of_done {o : Outcome} (hp : b.handlers[number]? = some (.done o))
    (k : Conditions σ) (turns : List Nat) :
    own number (b.trace k turns) = [] ∧ (b.play k turns).handlers[number]? = some (.done o) := by
  obtain ⟨q, hq, hAfter⟩ := after_trace turns hp
  cases hOwn : own number (b.trace k turns) with
  | nil =>
    rw [hOwn] at hAfter
    obtain rfl := Program.after_nil_iff.mp hAfter
    exact ⟨rfl, hq⟩
  | cons e es =>
    rw [hOwn] at hAfter
    exact hAfter.elim

/-- What any handler does in turns with others it does alone. -/
theorem Apart.runsAlone (h : Apart s owner b) (hk : k.Calm) (turns : List Nat)
    (hOnly : ∀ number number' id, owner number = some id → owner number' = some id → number' = number)
    {p : Program Outcome} {o : Outcome} (hp : b.handlers[number]? = some p)
    (hDone : (b.play k turns).handlers[number]? = some (.done o))
    {v : World (List Time.Instant)} {times : List Time.Instant} (hBuilt : v.store.IsBuilt)
    (hSlice : ∀ id, owner number = some id → v.store.slice id = b.world.store.slice id)
    (hTimes : v.state = readings number (b.trace k turns) ++ times) :
    ∃ v', RunsAlone (owner number) o (ownEffects number (b.trace k turns))
      (b.play k turns).world.store times v p v' := by
  cases hOwner : owner number with
  | none =>
    -- a handler of no device was done at the start
    obtain ⟨o', rfl⟩ := h.unowned number p hp hOwner
    obtain ⟨hNothing, hDone'⟩ := own_eq_nil_of_done hp k turns
    rw [hDone] at hDone'
    cases hDone'
    rw [readings, hNothing] at hTimes
    refine ⟨v, {
      run := rfl
      state := hTimes
      effects := ?_
      built := hBuilt
      own := nofun
      others := fun _ _ => rfl }⟩
    rw [ownEffects, hNothing]
    exact (List.append_nil _).symm
  | some id =>
    exact h.alone hk turns (fun number' => hOnly number number' id hOwner) hOwner hp
      (h.owned number p id hp hOwner) hDone hBuilt (hSlice id hOwner) hTimes

/-! ## One after the other -/

/-- Handlers that run one after the other, each with the readings that it has had in some turns, come to
what these turns have come to. -/
theorem Apart.runInOrder (h : Apart s owner b) (hk : k.Calm) (turns : List Nat)
    (hOnly : ∀ number number' id, owner number = some id → owner number' = some id → number' = number)
    {outcomes : List Outcome} (hDone : (b.play k turns).handlers = outcomes.map .done)
    (order : List Nat) (hNodup : order.Nodup) (hBound : ∀ number ∈ order, number < b.handlers.length)
    {v : World (List Time.Instant)} (hBuilt : v.store.IsBuilt)
    (hWaiting : ∀ number ∈ order, ∀ id, owner number = some id →
      v.store.slice id = b.world.store.slice id)
    (hSettled : ∀ id, (∀ number ∈ order, owner number ≠ some id) →
      v.store.slice id = (b.play k turns).world.store.slice id)
    (hTimes : v.state = order.flatMap fun number => readings number (b.trace k turns)) :
    ∃ v', Batch.runInOrder .given (order.filterMap (b.handlers[·]?)) v =
        (some (order.filterMap (outcomes[·]?)), v') ∧
      v'.effects = v.effects ++ order.flatMap (fun number => ownEffects number (b.trace k turns)) ∧
      ∀ id, v'.store.slice id = (b.play k turns).world.store.slice id := by
  -- along the order: whose turn it is finds its slice as at first, and leaves it as in the end
  induction order generalizing v with
  | nil => exact ⟨v, rfl, (List.append_nil _).symm, fun id => hSettled id (by simp)⟩
  | cons number order ih =>
    obtain ⟨hFirst, hNodup⟩ := List.nodup_cons.mp hNodup
    obtain ⟨p, hp⟩ : ∃ p, b.handlers[number]? = some p :=
      ⟨_, List.getElem?_eq_getElem (hBound number List.mem_cons_self)⟩
    have hLength : number < (b.play k turns).handlers.length := by
      rw [length_play]
      exact hBound number List.mem_cons_self
    rw [hDone, List.length_map] at hLength
    obtain ⟨o, ho⟩ : ∃ o, outcomes[number]? = some o := ⟨_, List.getElem?_eq_getElem hLength⟩
    have hDoneFirst : (b.play k turns).handlers[number]? = some (.done o) := by
      rw [hDone, List.getElem?_map, ho]
      rfl
    rw [List.flatMap_cons] at hTimes
    obtain ⟨v₁, hAlone⟩ := h.runsAlone hk turns hOnly hp hDoneFirst hBuilt
      (hWaiting number List.mem_cons_self) hTimes
    obtain ⟨v', hRun, hEffects, hSlices⟩ := ih hNodup
      (fun number' hn => hBound number' (List.mem_cons_of_mem _ hn)) hAlone.built
      (fun number' hn id hOwner => by
        have hOther : owner number ≠ some id := by
          intro hSame
          obtain rfl := hOnly number number' id hSame hOwner
          exact hFirst hn
        rw [hAlone.others id hOther]
        exact hWaiting number' (List.mem_cons_of_mem _ hn) id hOwner)
      (fun id hNone => by
        by_cases hOwn : owner number = some id
        · exact hAlone.own id hOwn
        · rw [hAlone.others id hOwn]
          exact hSettled id (List.forall_mem_cons.mpr ⟨hOwn, hNone⟩))
      hAlone.state
    refine ⟨v', ?_, ?_, hSlices⟩
    · simp only [List.filterMap_cons, hp, ho, Batch.runInOrder, hAlone.run, hRun, Option.map_some]
    · rw [hEffects, hAlone.effects, List.flatMap_cons, List.append_assoc]

/-- A trace is put together from what the handlers have in it, whatever the order. -/
theorem perm_flatMap_own {t : List (Nat × Exchange)} {order : List Nat} (hNodup : order.Nodup)
    (h : ∀ x ∈ t, x.1 ∈ order) : (order.flatMap (own · t)).Perm (t.map Prod.snd) := by
  induction t with
  | nil =>
    have hNothing : order.flatMap (own · []) = [] := List.flatMap_eq_nil_iff.mpr fun _ _ => rfl
    rw [hNothing]
    exact .nil
  | cons x t ih =>
    obtain ⟨number, e⟩ := x
    obtain ⟨before, after, rfl⟩ := List.append_of_mem (h (number, e) List.mem_cons_self)
    have hRest := ih fun x hx => h x (List.mem_cons_of_mem _ hx)
    -- the first exchange is that of its handler alone
    have hOther : ∀ numbers : List Nat, number ∉ numbers →
        numbers.flatMap (own · ((number, e) :: t)) = numbers.flatMap (own · t) := by
      intro numbers hNumbers
      refine List.flatMap_congr fun other hMem => own_cons_other ?_ e t
      rintro rfl
      exact hNumbers hMem
    obtain ⟨-, hAfter, hDisjoint⟩ := List.nodup_append.mp hNodup
    have hBefore : number ∉ before := fun hMem => hDisjoint number hMem number List.mem_cons_self rfl
    rw [List.flatMap_append, List.flatMap_cons, hOther before hBefore,
      hOther after (List.nodup_cons.mp hAfter).1, own_cons_self, List.map_cons]
    rw [List.flatMap_append, List.flatMap_cons] at hRest
    exact List.perm_middle.trans (hRest.cons e)

/-! ## The end of an interleaving -/

/-- Whether a program makes no more calls. -/
def IsOver (p : Program Outcome) : Prop := ∀ c next, p ≠ .call c next

theorem handlers_set_self {p : Program Outcome} (hp : b.handlers[number]? = some p) :
    b.handlers.set number p = b.handlers := by
  obtain ⟨hBound, rfl⟩ := List.getElem?_eq_some_iff.mp hp
  exact List.set_getElem_self hBound

/-- Enough turns in a row bring a handler to its end, and leave the others where they are. -/
theorem exists_finished (k : Conditions σ) {p : Program Outcome}
    (hp : b.handlers[number]? = some p) : ∃ count q, IsOver q ∧
      (b.play k (List.replicate count number)).handlers = b.handlers.set number q := by
  -- by induction on the program: whatever the answer to its next call, what follows comes to its end
  induction p generalizing b with
  | done o => exact ⟨0, .done o, nofun, (handlers_set_self hp).symm⟩
  | abort => exact ⟨0, .abort, nofun, (handlers_set_self hp).symm⟩
  | call c next ih =>
    obtain ⟨count, q, hOver, hHandlers⟩ := ih (World.answer k c b.world).1 (handlers_turn_self k hp)
    refine ⟨count + 1, q, hOver, ?_⟩
    rw [List.replicate_succ, play_cons, hHandlers, turn_of_call k hp, List.set_set]

/-- Some interleaving brings as many handlers to their ends as there shall be, from the first one on. -/
theorem exists_over_below (k : Conditions σ) (b : Batch σ) (count : Nat) :
    ∃ turns, ∀ number : Nat, number < count → ∀ p,
      (b.play k turns).handlers[number]? = some p → IsOver p := by
  induction count with
  | zero => exact ⟨[], nofun⟩
  | succ count ih =>
    obtain ⟨turns, hOver⟩ := ih
    cases hp : (b.play k turns).handlers[count]? with
    | none =>
      refine ⟨turns, fun number hNumber p hHandler => ?_⟩
      rcases Nat.lt_succ_iff_lt_or_eq.mp hNumber with hEarlier | rfl
      · exact hOver number hEarlier p hHandler
      · rw [hp] at hHandler
        cases hHandler
    | some p =>
      -- the turns of this handler alone come after those of the ones before it, which stay as they are
      obtain ⟨more, q, hq, hHandlers⟩ := exists_finished k hp
      have hBound : count < (b.play k turns).handlers.length := (List.getElem?_eq_some_iff.mp hp).1
      refine ⟨turns ++ List.replicate more count, fun number hNumber p' hHandler => ?_⟩
      rw [play_append, hHandlers] at hHandler
      rcases Nat.lt_succ_iff_lt_or_eq.mp hNumber with hEarlier | rfl
      · rw [List.getElem?_set_ne (Nat.ne_of_gt hEarlier)] at hHandler
        exact hOver number hEarlier p' hHandler
      · rw [List.getElem?_set_self hBound] at hHandler
        obtain rfl := Option.some.inj hHandler
        exact hq

/-- Every interleaving can go on until all handlers are at their ends. -/
theorem exists_over (k : Conditions σ) (b : Batch σ) :
    ∃ turns, ∀ p ∈ (b.play k turns).handlers, IsOver p := by
  obtain ⟨turns, hOver⟩ := exists_over_below k b b.handlers.length
  refine ⟨turns, fun p hp => ?_⟩
  obtain ⟨number, hBound, rfl⟩ := List.getElem_of_mem hp
  rw [length_play] at hBound
  exact hOver number hBound _ (List.getElem?_eq_getElem _)

/-- An interleaving in which no handler is ever cut short can go on until all have their outcomes. -/
theorem exists_outcomes (k : Conditions σ) (b : Batch σ)
    (hAlive : ∀ turns, Program.abort ∉ (b.play k turns).handlers) :
    ∃ turns outcomes, (b.play k turns).handlers.mapM outcome? = some outcomes := by
  obtain ⟨turns, hOver⟩ := exists_over k b
  have hDone : ∀ p ∈ (b.play k turns).handlers, p ∈ Set.range (Program.done (α := Outcome)) := by
    intro p hp
    cases p with
    | done o => exact ⟨o, rfl⟩
    | abort => exact absurd hp (hAlive turns)
    | call c next => exact absurd rfl (hOver _ hp c next)
  have hRange : (b.play k turns).handlers ∈ Set.range (List.map (Program.done (α := Outcome))) := by
    rw [Set.range_list_map]
    exact hDone
  obtain ⟨outcomes, hOutcomes⟩ := hRange
  exact ⟨turns, outcomes, mapM_outcome?_eq_some_iff.mpr hOutcomes.symm⟩

end Batch

/-! ## The law -/

/-- Whether no two messages name the same device. -/
def DistinctDevices (messages : List Message) : Prop :=
  ∀ number number' id, deviceOf? messages number = some id → deviceOf? messages number' = some id →
    number' = number

/-- The messages of a batch one after the other, in the order of these numbers and without failures, while
the clock shows each message its own times. -/
def inOrder (server : Server) (messages : List Message) (times : Nat → List Time.Instant)
    (order : List Nat) (w : World σ) : Option (List Outcome) × World (List Time.Instant) :=
  Batch.runInOrder .given (order.filterMap ((Batch.start server messages w).handlers[·]?))
    ⟨w.store, order.flatMap times, w.effects⟩

/-- Whether two worlds that have come from one world are the same for all that devices have to do with: the
rows are the same, the activations of each device are so up to their numbers, and so are the new effects
up to their order. -/
structure SameForDevices {τ : Type} (w v : World σ) (v' : World τ) : Prop where
  rows : ∀ id, v'.store.getDevice id = v.store.getDevice id
  activations : ∀ id, (v'.store.activationsOf id).map Activation.unnumbered =
    (v.store.activationsOf id).map Activation.unnumbered
  effects : ∃ new new', v.effects = w.effects ++ new ∧ v'.effects = w.effects ++ new' ∧ new'.Perm new

variable {σ : Type} {server : Server} {messages : List Message} {w : World σ}

/-- Without failures, every interleaving that is over has come to what the messages come to one after the
other, in any order and with the same clock readings. -/
theorem interleaving_eq_inOrder (server : Server) (hBuilt : w.store.IsBuilt)
    (hDistinct : DistinctDevices messages) {k : Conditions σ} (hk : k.Calm) {turns : List Nat}
    {outcomes : List Outcome}
    (hOver : ((Batch.start server messages w).play k turns).handlers.mapM Batch.outcome? = some outcomes)
    {order : List Nat} (hOrder : order.Perm (List.range messages.length)) :
    ∃ v, inOrder server messages
        (Batch.readings · ((Batch.start server messages w).trace k turns)) order w =
          (some (order.filterMap (outcomes[·]?)), v) ∧
      SameForDevices w ((Batch.start server messages w).play k turns).world v := by
  have hApart := Batch.start_apart server messages hBuilt
  have hDone := Batch.mapM_outcome?_eq_some_iff.mp hOver
  have hNodup : order.Nodup := hOrder.nodup_iff.mpr List.nodup_range
  have hMember : ∀ number, number < messages.length ↔ number ∈ order := by
    intro number
    rw [hOrder.mem_iff, List.mem_range]
  have hLength : (Batch.start server messages w).handlers.length = messages.length := by
    simp [Batch.start]
  obtain ⟨v, hRun, hEffects, hSlices⟩ := hApart.runInOrder hk turns hDistinct hDone order hNodup
    (fun number hn => by rw [hLength]; exact (hMember number).mpr hn)
    (v := ⟨w.store, _, w.effects⟩) hBuilt (fun _ _ _ _ => rfl)
    (fun id hNone => by
      -- a device that no message of the order names is named by no message
      have hUnnamed : ∀ number, deviceOf? messages number ≠ some id := by
        intro number hOwner
        obtain ⟨m, r, hMessage, -, -⟩ := deviceOf?_eq_some_iff.mp hOwner
        have hBound : number < messages.length := (List.getElem?_eq_some_iff.mp hMessage).1
        exact hNone number ((hMember number).mp hBound) hOwner
      exact (hApart.slice_play k turns hUnnamed).symm)
    rfl
  refine ⟨v, hRun, {
    rows := fun id => Store.getDevice_of_slice (hSlices id)
    activations := fun id => Store.activationsOf_of_slice (hSlices id)
    effects := ⟨_, _, (Batch.plays_trace k _ turns).effects, hEffects, ?_⟩ }⟩
  have hPerm := Batch.perm_flatMap_own (t := (Batch.start server messages w).trace k turns) hNodup
    fun x hx => (hMember x.1).mp (by
      rw [← hLength]
      exact Batch.lt_of_mem_trace hx)
  have hParts : order.flatMap (fun number =>
      Batch.ownEffects number ((Batch.start server messages w).trace k turns)) =
      (order.flatMap fun number =>
        Batch.own number ((Batch.start server messages w).trace k turns)).filterMap Exchange.effect? :=
    List.filterMap_flatMap.symm
  rw [hParts]
  exact hPerm.filterMap _

/-- Messages of different devices are independent.  Unless a handler is cut short, every interleaving can go
on to its end.  Without failures, and with the clock readings of each message given, it has then come to
the same as the messages one after the other, in any order.  And whatever fails, no turn of a handler
changes anything of another device or tells of one. -/
theorem devices_independent (server : Server) (messages : List Message) {w : World σ}
    (hBuilt : w.store.IsBuilt) :
    (∀ (k : Conditions σ) (turns : List Nat),
      (∀ more, .abort ∉ ((Batch.start server messages w).play k (turns ++ more)).handlers) →
      ∃ more outcomes, ((Batch.start server messages w).play k (turns ++ more)).handlers.mapM
        Batch.outcome? = some outcomes) ∧
    (DistinctDevices messages → ∀ (k : Conditions σ) (turns : List Nat) (outcomes : List Outcome),
      k.Calm →
      ((Batch.start server messages w).play k turns).handlers.mapM Batch.outcome? = some outcomes →
      ∀ order : List Nat, order.Perm (List.range messages.length) →
        ∃ v, inOrder server messages
            (Batch.readings · ((Batch.start server messages w).trace k turns)) order w =
              (some (order.filterMap (outcomes[·]?)), v) ∧
          SameForDevices w ((Batch.start server messages w).play k turns).world v) ∧
    ∀ (k : Conditions σ) (turns : List Nat) (number : Nat),
      Batch.KeepsToDevice w.store (deviceOf? messages number)
        ((Batch.start server messages w).play k turns).world
        (((Batch.start server messages w).play k turns).turn k number).world := by
  refine ⟨fun k turns hAlive => ?_, fun hDistinct k turns outcomes hk hOver order hOrder => ?_,
    fun k turns number => ?_⟩
  · -- an interleaving that goes on from another one is an interleaving
    simp only [Batch.play_append] at hAlive ⊢
    exact Batch.exists_outcomes k _ hAlive
  · exact interleaving_eq_inOrder server hBuilt hDistinct hk hOver hOrder
  · exact ((Batch.start_apart server messages hBuilt).play k turns).keepsToDevice k number

namespace Sample

/-- Another device of the same application. -/
def neighbour : Device :=
  { Service.Sample.device with devEui := ⟨[0, 0, 0, 0, 0, 0, 0, 1], rfl⟩, name := "neighbour" }

/-- A store of two devices, neither of which has a session. -/
def twoDevices : Store :=
  ((Store.empty.insertDevice Service.Sample.device).insertDevice neighbour).insertApplication
    Service.Sample.application

/-- Status reports of two devices. -/
def twoReports : List Message :=
  [⟨"ns.status", statusReport, none⟩, ⟨"ns.status", Utf8.encode
    "\x7b\"devEui\":\"0000000000000001\",\"battery\":40,\"margin\":2\x7d", none⟩]

end Sample

/-- Two status reports, each in the middle of the other, come to what the second before the first does. -/
theorem devices_independent_sample :
    Sample.twoDevices.IsBuilt ∧ DistinctDevices Sample.twoReports ∧
      ∃ v, inOrder ⟨.empty, .ofCodec⟩ Sample.twoReports (fun _ => []) [1, 0]
          (⟨Sample.twoDevices, [], []⟩ : World (List Time.Instant)) = (some [.ack, .ack], v) ∧
        v.effects.length = 4 := by
  have hBuilt : Sample.twoDevices.IsBuilt :=
    ((Store.IsBuilt.empty.insertDevice _).insertDevice _).insertApplication _
  have hFirst : deviceOf? Sample.twoReports 0 = some Service.Sample.device.devEui := by decide +kernel
  have hSecond : deviceOf? Sample.twoReports 1 = some Sample.neighbour.devEui := by decide +kernel
  have hBound : ∀ {number id}, deviceOf? Sample.twoReports number = some id →
      number = 0 ∨ number = 1 := by
    intro number id h
    obtain ⟨m, r, hMessage, -, -⟩ := deviceOf?_eq_some_iff.mp h
    have hLess : number < 2 := (List.getElem?_eq_some_iff.mp hMessage).1
    omega
  have hDistinct : DistinctDevices Sample.twoReports := by
    intro number number' id h h'
    rcases hBound h with rfl | rfl <;> rcases hBound h' with rfl | rfl
    · rfl
    · have hSame := hFirst.symm.trans (h.trans (h'.symm.trans hSecond))
      exact absurd hSame (by decide)
    · have hSame := hFirst.symm.trans (h'.trans (h.symm.trans hSecond))
      exact absurd hSame (by decide)
    · rfl
  let w : World (List Time.Instant) := ⟨Sample.twoDevices, [], []⟩
  let turns := [0, 1, 1, 0, 0, 1, 1, 0]
  let start := Batch.start ⟨.empty, .ofCodec⟩ Sample.twoReports w
  obtain ⟨-, hSame, -⟩ := devices_independent ⟨.empty, .ofCodec⟩ Sample.twoReports (w := w) hBuilt
  have hOver : (start.play .given turns).handlers.mapM Batch.outcome? = some [.ack, .ack] := by
    decide +kernel
  have hSent : (start.play .given turns).world.effects.length = 4 := by
    decide +kernel
  have hTimes : [1, 0].flatMap (Batch.readings · (start.trace .given turns)) = [] := by
    decide +kernel
  obtain ⟨v, hRun, hv⟩ := hSame hDistinct .given turns [.ack, .ack] Conditions.given_calm hOver [1, 0]
    (by decide)
  unfold inOrder at hRun
  rw [hTimes] at hRun
  refine ⟨hBuilt, hDistinct, v, hRun, ?_⟩
  obtain ⟨new, new', hNew, hNew', hPerm⟩ := hv.effects
  rw [hNew, List.length_append] at hSent
  rw [hNew', List.length_append, hPerm.length_eq]
  exact hSent

end Lorawan.Ingress
