import Lorawan.Service.World

/-!
# Conversations

A service program and the world around it take turns: the program makes a call, and the world answers.
The calls that a program has made so far, each with its answer, are its *conversation*.  What a program
may do is a law about its conversations, whoever gives the answers; a run in one world and a run among
others are then two ways to have one.

* **Endings and questions**: `Program.Ends` says that a program is over after a conversation, and
  `Program.Asks` that it has come to another call.  Both go through `>>=` (`ends_bind_iff`,
  `asks_bind_iff`), for programs and for services, which stop at their first failure.
* **Runs**: `World.Plays` says that the answers are those of a world.  A run in a world is a
  conversation that is played there (`World.run_eq_iff`).
* **Traces**: a conversation tells what it leaves behind, namely the effects (`World.Plays.effects`)
  and the new activations (`World.Plays.activations`).
-/

namespace Lorawan

/-- A call and its answer. -/
structure Exchange where
  call : Call
  answer : call.Answer

namespace Program

variable {α β : Type}

/-! ## Endings and questions -/

/-- Whether a program is over after a conversation, with this result unless it was cut short. -/
def Ends : Program α → List Exchange → Option α → Prop
  | done a, es, o => es = [] ∧ o = some a
  | abort, es, o => es = [] ∧ o = none
  | call c next, es, o => ∃ answer rest, es = ⟨c, answer⟩ :: rest ∧ (next answer).Ends rest o

/-- Whether a program makes this call after a conversation. -/
def Asks : Program α → List Exchange → Call → Prop
  | call c next, es, c' =>
    (es = [] ∧ c' = c) ∨ ∃ answer rest, es = ⟨c, answer⟩ :: rest ∧ (next answer).Asks rest c'
  | _, _, _ => False

/-- Whether every call that a program can make is of some kind. -/
def CallsOnly (P : Call → Prop) : Program α → Prop
  | call c next => P c ∧ ∀ answer, (next answer).CallsOnly P
  | _ => True

theorem ends_bind_iff {p : Program α} {f : α → Program β} {es : List Exchange} {o : Option β} :
    (p >>= f).Ends es o ↔
      (∃ a es₁ es₂, es = es₁ ++ es₂ ∧ p.Ends es₁ (some a) ∧ (f a).Ends es₂ o) ∨
        (p.Ends es none ∧ o = none) := by
  -- by induction on the first program: a call of it opens the conversation of the whole
  induction p generalizing es with
  | done a =>
    constructor
    · intro h
      exact Or.inl ⟨a, [], es, rfl, ⟨rfl, rfl⟩, h⟩
    · rintro (⟨b, es₁, es₂, rfl, ⟨rfl, hb⟩, h⟩ | ⟨⟨-, h⟩, -⟩)
      · cases hb
        exact h
      · cases h
  | abort =>
    constructor
    · rintro ⟨rfl, rfl⟩
      exact Or.inr ⟨⟨rfl, rfl⟩, rfl⟩
    · rintro (⟨b, es₁, es₂, rfl, ⟨-, h⟩, -⟩ | ⟨⟨rfl, -⟩, rfl⟩)
      · cases h
      · exact ⟨rfl, rfl⟩
  | call c next ih =>
    constructor
    · rintro ⟨answer, rest, rfl, h⟩
      rcases (ih answer).mp h with ⟨a, es₁, es₂, rfl, h₁, h₂⟩ | ⟨hp, rfl⟩
      · exact Or.inl ⟨a, ⟨c, answer⟩ :: es₁, es₂, rfl, ⟨answer, es₁, rfl, h₁⟩, h₂⟩
      · exact Or.inr ⟨⟨answer, rest, rfl, hp⟩, rfl⟩
    · rintro (⟨a, es₁, es₂, rfl, ⟨answer, rest, rfl, h₁⟩, h₂⟩ | ⟨⟨answer, rest, rfl, h⟩, ho⟩)
      · exact ⟨answer, rest ++ es₂, rfl, (ih answer).mpr (Or.inl ⟨a, rest, es₂, rfl, h₁, h₂⟩)⟩
      · exact ⟨answer, rest, rfl, (ih answer).mpr (Or.inr ⟨h, ho⟩)⟩

theorem asks_bind_iff {p : Program α} {f : α → Program β} {es : List Exchange} {c : Call} :
    (p >>= f).Asks es c ↔
      p.Asks es c ∨ ∃ a es₁ es₂, es = es₁ ++ es₂ ∧ p.Ends es₁ (some a) ∧ (f a).Asks es₂ c := by
  induction p generalizing es with
  | done a =>
    constructor
    · intro h
      exact Or.inr ⟨a, [], es, rfl, ⟨rfl, rfl⟩, h⟩
    · rintro (h | ⟨b, es₁, es₂, rfl, ⟨rfl, hb⟩, h⟩)
      · exact h.elim
      · cases hb
        exact h
  | abort =>
    constructor
    · intro h
      exact h.elim
    · rintro (h | ⟨b, es₁, es₂, rfl, ⟨-, h⟩, -⟩)
      · exact h.elim
      · cases h
  | call c₀ next ih =>
    -- the call that is asked is this one, or one that the program asks after its answer
    constructor
    · rintro (⟨rfl, rfl⟩ | ⟨answer, rest, rfl, h⟩)
      · exact Or.inl (Or.inl ⟨rfl, rfl⟩)
      · rcases (ih answer).mp h with h | ⟨a, es₁, es₂, rfl, h₁, h₂⟩
        · exact Or.inl (Or.inr ⟨answer, rest, rfl, h⟩)
        · exact Or.inr ⟨a, ⟨c₀, answer⟩ :: es₁, es₂, rfl, ⟨answer, es₁, rfl, h₁⟩, h₂⟩
    · rintro ((⟨rfl, rfl⟩ | ⟨answer, rest, rfl, h⟩) | ⟨a, es₁, es₂, rfl, ⟨answer, rest, rfl, h₁⟩, h₂⟩)
      · exact Or.inl ⟨rfl, rfl⟩
      · exact Or.inr ⟨answer, rest, rfl, (ih answer).mpr (Or.inl h)⟩
      · exact Or.inr ⟨answer, rest ++ es₂, rfl,
          (ih answer).mpr (Or.inr ⟨a, rest, es₂, rfl, h₁, h₂⟩)⟩

namespace CallsOnly

variable {P Q : Call → Prop}

theorem mono {p : Program α} (hp : p.CallsOnly P) (hPQ : ∀ c, P c → Q c) : p.CallsOnly Q := by
  induction p with
  | done a => trivial
  | abort => trivial
  | call c next ih => exact ⟨hPQ c hp.1, fun answer => ih answer (hp.2 answer)⟩

theorem bind {p : Program α} {f : α → Program β} (hp : p.CallsOnly P)
    (hf : ∀ a, (f a).CallsOnly P) : (p >>= f).CallsOnly P := by
  induction p with
  | done a => exact hf a
  | abort => trivial
  | call c next ih => exact ⟨hp.1, fun answer => ih answer (hp.2 answer)⟩

theorem asks {p : Program α} (hp : p.CallsOnly P) {es : List Exchange} {c : Call}
    (h : p.Asks es c) : P c := by
  induction p generalizing es with
  | done a => exact h.elim
  | abort => exact h.elim
  | call c₀ next ih =>
    rcases h with ⟨-, rfl⟩ | ⟨answer, rest, -, h⟩
    · exact hp.1
    · exact ih answer (hp.2 answer) h

theorem ends {p : Program α} (hp : p.CallsOnly P) {es : List Exchange} {o : Option α}
    (h : p.Ends es o) : ∀ e ∈ es, P e.call := by
  induction p generalizing es with
  | done a => simp [h.1]
  | abort => simp [h.1]
  | call c next ih =>
    obtain ⟨answer, rest, rfl, h⟩ := h
    intro e he
    rcases List.mem_cons.mp he with rfl | he
    · exact hp.1
    · exact ih answer (hp.2 answer) h e he

end CallsOnly

end Program

/-! ## Services -/

namespace Service

variable {α β : Type}

/-- Whether a service is over after a conversation: with success, with failure, or cut short. -/
def Ends (s : Service α) (es : List Exchange) (o : Option (Except ServiceError α)) : Prop :=
  s.program.Ends es o

/-- Whether a service succeeds with a value after a conversation. -/
def Gives (s : Service α) (es : List Exchange) (a : α) : Prop := s.Ends es (some (.ok a))

/-- Whether a service makes this call after a conversation. -/
def Asks (s : Service α) (es : List Exchange) (c : Call) : Prop := s.program.Asks es c

/-- Whether every call that a service can make is of some kind. -/
def CallsOnly (P : Call → Prop) (s : Service α) : Prop := s.program.CallsOnly P

/-- What follows the first part of a service: the second part after a success, else nothing. -/
def continuation (f : α → Service β) : Except ServiceError α → Program (Except ServiceError β)
  | .ok a => (f a).program
  | .error e => .done (.error e)

theorem program_bind (s : Service α) (f : α → Service β) :
    (s >>= f).program = s.program >>= continuation f := by
  -- the transformer's own continuation is a `match` of the same shape
  show Program.bind s.program (ExceptT.bindCont f) = Program.bind s.program (continuation f)
  congr 1
  funext r
  cases r <;> rfl

/-- A service made of two parts is over when its first part has stopped it, or with its second part. -/
theorem ends_bind_iff {s : Service α} {f : α → Service β} {es : List Exchange}
    {o : Option (Except ServiceError β)} :
    (s >>= f).Ends es o ↔
      (∃ a es₁ es₂, es = es₁ ++ es₂ ∧ s.Gives es₁ a ∧ (f a).Ends es₂ o) ∨
        (∃ e, s.Ends es (some (.error e)) ∧ o = some (.error e)) ∨ (s.Ends es none ∧ o = none) := by
  unfold Gives Ends
  rw [program_bind, Program.ends_bind_iff]
  constructor
  -- the first part has had a result: an error, which is that of the whole, or a value to go on with
  · rintro (⟨a | a, es₁, es₂, rfl, h₁, h₂⟩ | h)
    · obtain ⟨rfl, rfl⟩ := h₂
      exact Or.inr (Or.inl ⟨a, by simpa using h₁, rfl⟩)
    · exact Or.inl ⟨a, es₁, es₂, rfl, h₁, h₂⟩
    · exact Or.inr (Or.inr h)
  · rintro (⟨a, es₁, es₂, rfl, h₁, h₂⟩ | ⟨e, h, rfl⟩ | h)
    · exact Or.inl ⟨.ok a, es₁, es₂, rfl, h₁, h₂⟩
    · exact Or.inl ⟨.error e, es, [], by simp, h, rfl, rfl⟩
    · exact Or.inr h

/-- A service made of two parts goes on to its second part, or its first part has given no value. -/
theorem ends_bind_cases {s : Service α} {f : α → Service β} {es : List Exchange}
    {o : Option (Except ServiceError β)} (h : (s >>= f).Ends es o) :
    (∃ a es₁ es₂, es = es₁ ++ es₂ ∧ s.Gives es₁ a ∧ (f a).Ends es₂ o) ∨
      ∃ o', s.Ends es o' ∧ ∀ a, o' ≠ some (.ok a) := by
  rcases ends_bind_iff.mp h with hBoth | ⟨e, hFirst, -⟩ | ⟨hFirst, -⟩
  · exact Or.inl hBoth
  · exact Or.inr ⟨some (.error e), hFirst, by simp⟩
  · exact Or.inr ⟨none, hFirst, by simp⟩

theorem gives_bind_iff {s : Service α} {f : α → Service β} {es : List Exchange} {b : β} :
    (s >>= f).Gives es b ↔ ∃ a es₁ es₂, es = es₁ ++ es₂ ∧ s.Gives es₁ a ∧ (f a).Gives es₂ b := by
  unfold Gives
  rw [ends_bind_iff]
  simp [Gives]

theorem asks_bind_iff {s : Service α} {f : α → Service β} {es : List Exchange} {c : Call} :
    (s >>= f).Asks es c ↔
      s.Asks es c ∨ ∃ a es₁ es₂, es = es₁ ++ es₂ ∧ s.Gives es₁ a ∧ (f a).Asks es₂ c := by
  unfold Gives Ends Asks
  rw [program_bind, Program.asks_bind_iff]
  constructor
  · rintro (h | ⟨a | a, es₁, es₂, rfl, h₁, h₂⟩)
    · exact Or.inl h
    · exact h₂.elim
    · exact Or.inr ⟨a, es₁, es₂, rfl, h₁, h₂⟩
  · rintro (h | ⟨a, es₁, es₂, rfl, h₁, h₂⟩)
    · exact Or.inl h
    · exact Or.inr ⟨.ok a, es₁, es₂, rfl, h₁, h₂⟩

theorem CallsOnly.bind {P : Call → Prop} {s : Service α} {f : α → Service β} (hs : s.CallsOnly P)
    (hf : ∀ a, (f a).CallsOnly P) : (s >>= f).CallsOnly P := by
  unfold CallsOnly
  rw [program_bind]
  refine Program.CallsOnly.bind hs fun r => ?_
  cases r with
  | ok a => exact hf a
  | error e => trivial

/-! ### Steps without a call -/

theorem ends_pure_iff {a : α} {es : List Exchange} {o : Option (Except ServiceError α)} :
    (pure a : Service α).Ends es o ↔ es = [] ∧ o = some (.ok a) := Iff.rfl

theorem gives_pure_iff {a b : α} {es : List Exchange} :
    (pure a : Service α).Gives es b ↔ es = [] ∧ b = a := by
  unfold Gives
  rw [ends_pure_iff]
  simp

theorem ends_throw_iff {e : ServiceError} {es : List Exchange}
    {o : Option (Except ServiceError α)} :
    (throw e : Service α).Ends es o ↔ es = [] ∧ o = some (.error e) := Iff.rfl

theorem callsOnly_pure {P : Call → Prop} {a : α} : (pure a : Service α).CallsOnly P := trivial

theorem callsOnly_throw {P : Call → Prop} {e : ServiceError} :
    (throw e : Service α).CallsOnly P := trivial

theorem callsOnly_ofAttempt {P : Call → Prop} {x : Attempt ServiceError α} :
    (ofAttempt x).CallsOnly P := by
  rcases x with (e | _) | a <;> trivial

theorem discard_eq (s : Service α) : (discard s : Service Unit) = s >>= fun _ => pure () := by
  rw [discard, Functor.mapConst]
  rfl

/-- A service whose value is not used ends as it does. -/
theorem ends_discard_iff {s : Service α} {es : List Exchange}
    {o : Option (Except ServiceError Unit)} :
    (discard s : Service Unit).Ends es o ↔
      ∃ o', s.Ends es o' ∧ o = o'.map (Except.map fun _ => ()) := by
  rw [discard_eq, ends_bind_iff]
  constructor
  · rintro (⟨a, es₁, es₂, rfl, h, hDone⟩ | ⟨e, h, rfl⟩ | ⟨h, rfl⟩)
    · obtain ⟨rfl, rfl⟩ := ends_pure_iff.mp hDone
      exact ⟨some (.ok a), (List.append_nil es₁).symm ▸ h, rfl⟩
    · exact ⟨some (.error e), h, rfl⟩
    · exact ⟨none, h, rfl⟩
  · rintro ⟨_ | e | a, h, rfl⟩
    · exact Or.inr (Or.inr ⟨h, rfl⟩)
    · exact Or.inr (Or.inl ⟨e, h, rfl⟩)
    · exact Or.inl ⟨a, es, [], by simp, h, rfl, rfl⟩

theorem CallsOnly.discard {P : Call → Prop} {s : Service α} (hs : s.CallsOnly P) :
    (Functor.discard s : Service Unit).CallsOnly P := by
  rw [discard_eq]
  exact hs.bind fun _ => callsOnly_pure

/-! ### The seams

Each seam of a service is one call whose answer decides how the service goes on.  The lemmas below bring
every seam into this form, so that `ends_ask_iff` and `asks_ask_iff` say all there is to say of it. -/

/-- Makes one call, and has the result that its answer means. -/
def ask (c : Call) (outcome : c.Answer → Except ServiceError α) : Service α :=
  ExceptT.mk (.call c fun answer => .done (outcome answer))

theorem ends_ask_iff {c : Call} {outcome : c.Answer → Except ServiceError α} {es : List Exchange}
    {o : Option (Except ServiceError α)} :
    (ask c outcome).Ends es o ↔ ∃ answer, es = [⟨c, answer⟩] ∧ o = some (outcome answer) := by
  constructor
  · rintro ⟨answer, rest, rfl, rfl, rfl⟩
    exact ⟨answer, rfl, rfl⟩
  · rintro ⟨answer, rfl, rfl⟩
    exact ⟨answer, [], rfl, rfl, rfl⟩

theorem gives_ask_iff {c : Call} {outcome : c.Answer → Except ServiceError α} {es : List Exchange}
    {a : α} :
    (ask c outcome).Gives es a ↔ ∃ answer, es = [⟨c, answer⟩] ∧ outcome answer = .ok a := by
  unfold Gives
  rw [ends_ask_iff]
  simp [eq_comm]

theorem asks_ask_iff {c c' : Call} {outcome : c.Answer → Except ServiceError α}
    {es : List Exchange} : (ask c outcome).Asks es c' ↔ es = [] ∧ c' = c := by
  constructor
  · rintro (h | ⟨answer, rest, -, h⟩)
    · exact h
    · exact h.elim
  · exact Or.inl

theorem callsOnly_ask {P : Call → Prop} {c : Call} {outcome : c.Answer → Except ServiceError α}
    (h : P c) : (ask c outcome).CallsOnly P :=
  ⟨h, fun _ => trivial⟩

theorem ends_ask_bind_iff {c : Call} {outcome : c.Answer → Except ServiceError α}
    {f : α → Service β} {es : List Exchange} {o : Option (Except ServiceError β)} :
    (ask c outcome >>= f).Ends es o ↔
      ∃ answer rest, es = ⟨c, answer⟩ :: rest ∧ (continuation f (outcome answer)).Ends rest o := by
  unfold Ends
  rw [program_bind]
  exact Iff.rfl

theorem asks_ask_bind_iff {c c' : Call} {outcome : c.Answer → Except ServiceError α}
    {f : α → Service β} {es : List Exchange} :
    (ask c outcome >>= f).Asks es c' ↔
      (es = [] ∧ c' = c) ∨ ∃ answer rest, es = ⟨c, answer⟩ :: rest ∧
        (continuation f (outcome answer)).Asks rest c' := by
  unfold Asks
  rw [program_bind]
  exact Iff.rfl

theorem gives_ask_bind_iff {c : Call} {outcome : c.Answer → Except ServiceError α}
    {f : α → Service β} {es : List Exchange} {b : β} :
    (ask c outcome >>= f).Gives es b ↔
      ∃ answer a rest, es = ⟨c, answer⟩ :: rest ∧ outcome answer = .ok a ∧ (f a).Gives rest b := by
  rw [gives_bind_iff]
  constructor
  · rintro ⟨a, _, rest, rfl, h₁, h₂⟩
    obtain ⟨answer, rfl, hAnswer⟩ := gives_ask_iff.mp h₁
    exact ⟨answer, a, rest, rfl, hAnswer, h₂⟩
  · rintro ⟨answer, a, rest, rfl, hAnswer, h₂⟩
    exact ⟨a, [_], rest, rfl, gives_ask_iff.mpr ⟨answer, rfl, hAnswer⟩, h₂⟩

/-- The outcome of a look-up that must find something. -/
def found (missing : ServiceError) : Except ServiceError (Option α) → Except ServiceError α
  | .ok (some a) => .ok a
  | .ok none => .error missing
  | .error e => .error e

@[simp] theorem found_eq_ok_iff {missing : ServiceError} {answer : Except ServiceError (Option α)}
    {a : α} : found missing answer = .ok a ↔ answer = .ok (some a) := by
  rcases answer with e | _ | b <;> simp [found]

theorem now_eq : now = ask .now .ok := rfl

theorem getDevice_eq (devEui : Eui64) :
    getDevice devEui = ask (.getDevice devEui) (found (.deviceNotFound devEui.text)) := by
  refine congrArg (Program.call _) (funext fun answer => ?_)
  rcases answer with e | _ | d <;> rfl

theorem updateDevice_eq (devEui : Eui64) (mutation : DeviceMutation) :
    updateDevice devEui mutation =
      ask (.updateDevice devEui mutation) (found (.deviceNotFound devEui.text)) := by
  refine congrArg (Program.call _) (funext fun answer => ?_)
  rcases answer with e | _ | d <;> rfl

theorem getApplication_eq (id : Int64) :
    getApplication id = ask (.getApplication id) (found (.applicationNotFound id)) := by
  refine congrArg (Program.call _) (funext fun answer => ?_)
  rcases answer with e | _ | a <;> rfl

theorem createActivation_eq (devEui : Eui64) (devAddr : DevAddr) (appSKey : Aes128Key) :
    createActivation devEui devAddr appSKey = ask (.createActivation devEui devAddr appSKey) id :=
  rfl

theorem lastActivation_eq (devEui : Eui64) :
    lastActivation devEui =
      ask (.lastActivation devEui) (found (.deviceActivationNotFound devEui.text)) := by
  refine congrArg (Program.call _) (funext fun answer => ?_)
  rcases answer with e | _ | a <;> rfl

/-- The gateways that an answer tells of: none if storage failed. -/
def knownGateways : Except ServiceError (Table Eui64 Gateway) → Table Eui64 Gateway
  | .ok gateways => gateways
  | .error _ => .empty

theorem getGateways_eq (ids : List Eui64) :
    getGateways ids = ask (.getGateways ids) fun answer => .ok (knownGateways answer) := by
  refine congrArg (Program.call _) (funext fun answer => ?_)
  rcases answer with e | gateways <;> rfl

theorem record_eq (n : Notification) :
    record n = ask (.log n.origin.devEui (.ofNotification n)) fun _ => .ok () := rfl

theorem deliver_eq (n : Notification) :
    deliver n = ask (.send n) fun answer => answer.mapError dispatchError := by
  refine congrArg (Program.call _) (funext fun answer => ?_)
  rcases answer with e | ⟨⟩ <;> rfl

theorem offer_eq (n : Notification) : offer n = ask (.send n) fun _ => .ok () := rfl

end Service

end Lorawan
