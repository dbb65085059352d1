import Lorawan.Proofs.Service.Failure
import Mathlib.Data.List.Forall2

/-!
# Two runs side by side

The same service is run in two worlds that differ in one respect: in the first no tolerated call ever
fails, in the second any of them may.  The runs go forward in lockstep, for what a service does next never
depends on whether a tolerated call has failed.  Only the names of gateways do: where the look-up of the
gateways fails, the second run tells of them without their names.

* `Program.Twins` relates the programs of the two runs call by call, with one rule for each way in which a
  call may be answered.  It goes through `>>=` (`Program.Twins.bind`, `Service.Twins.bind`).
* `Conditions.Twin` says that clock and failures are the same for both runs, except at the tolerated calls.
* Twins that are run in twin worlds end alike: they have the same result, leave the same store, and the
  effects agree one by one (`Program.Twins.run`).
-/

namespace Lorawan

/-! ## Names of gateways -/

/-- A notification without the names of gateways. -/
def Notification.withoutNames : Notification → Notification
  | .dataUp n => .dataUp { n with rxInfo := n.rxInfo.map fun i => { i with name := "" } }
  | n => n

/-- Whether one notification is the other, less the names of gateways if these are lost. -/
def Notification.Agrees (lost : Prop) (n n' : Notification) : Prop :=
  (lost → n' = n.withoutNames) ∧ (¬lost → n' = n)

/-- What the second run knows of the names of gateways. -/
inductive Names where
  | unasked
  | known
  | lost
  deriving DecidableEq

namespace Names

/-- Whether the second run tells of something by `n'` where the first run tells of it by `n`.  Before the
gateways were asked for, nothing has to do with their names. -/
def Tells : Names → Notification → Notification → Prop
  | unasked, n, n' => n' = n ∧ n.withoutNames = n
  | known, n, n' => n' = n
  | lost, n, n' => n' = n.withoutNames

/-- Whether a knowledge may have become the other one: the gateways are asked for once. -/
def Becomes (names names' : Names) : Prop := names = unasked ∨ names' = names

/-- What has nothing to do with names is told of alike. -/
theorem tells_unasked {n : Notification} (h : n.withoutNames = n) : unasked.Tells n n := ⟨rfl, h⟩

theorem Tells.agrees {names names' : Names} {n n' : Notification} (h : names.Tells n n')
    (hBecomes : names.Becomes names') : n.Agrees (names' = lost) n' := by
  rcases hBecomes with rfl | rfl
  · obtain ⟨rfl, hNames⟩ := h
    exact ⟨fun _ => hNames.symm, fun _ => rfl⟩
  · cases names' with
    | unasked => exact ⟨fun hLost => (nomatch hLost), fun _ => h.1⟩
    | known => exact ⟨fun hLost => (nomatch hLost), fun _ => h⟩
    | lost => exact ⟨fun _ => h, fun hLost => absurd rfl hLost⟩

end Names

/-- Whether an effect of the second run is that of the first: the same notification, less the names of
gateways if these are lost, and the same success unless the call is tolerated.  A tolerated call succeeds
in the first run. -/
inductive Effect.Agrees (lost : Prop) : Effect → Effect → Prop
  | logged {devEui : Eui64} {n n' : Notification} (h : n.Agrees lost n') (ok' : Bool) :
    Agrees lost (.logged devEui (.ofNotification n) true) (.logged devEui (.ofNotification n') ok')
  | offered {n : Notification} (h : (Call.send n).isTolerated = true) (ok' : Bool) :
    Agrees lost (.sent n true) (.sent n ok')
  | delivered {n n' : Notification} (h : n.Agrees lost n')
      (hStrict : (Call.send n).isTolerated = false) (ok : Bool) :
    Agrees lost (.sent n ok) (.sent n' ok)

/-! ## Programs in lockstep -/

/-- Whether two programs make the same calls and end alike, for all answers that may be given to the calls
of the first and the second run: the same answers to both, except that a tolerated call succeeds in the
first run and may have any answer in the second. -/
inductive Program.Twins {α β : Type} (Φ : Names → α → β → Prop) :
    Names → Program α → Program β → Prop
  | done {names : Names} {a : α} {b : β} (h : Φ names a b) : Twins Φ names (.done a) (.done b)
  | abort {names : Names} : Twins Φ names .abort .abort
  | storage {names : Names} {c : Call} {next : c.Answer → Program α} {next' : c.Answer → Program β}
      (hStorage : c.isStorage = true) (h : ∀ answer, Twins Φ names (next answer) (next' answer)) :
    Twins Φ names (.call c next) (.call c next')
  | gateways {ids : List Eui64} {next : (Call.getGateways ids).Answer → Program α}
      {next' : (Call.getGateways ids).Answer → Program β}
      (hKnown : ∀ gateways, Twins Φ .known (next (.ok gateways)) (next' (.ok gateways)))
      (hLost : ∀ gateways e, Twins Φ .lost (next (.ok gateways)) (next' (.error e))) :
    Twins Φ .unasked (.call (.getGateways ids) next) (.call (.getGateways ids) next')
  | log {names : Names} {devEui : Eui64} {n n' : Notification}
      {next : (Call.log devEui (.ofNotification n)).Answer → Program α}
      {next' : (Call.log devEui (.ofNotification n')).Answer → Program β} (hTells : names.Tells n n')
      (h : ∀ answer', Twins Φ names (next (.ok ())) (next' answer')) :
    Twins Φ names (.call (.log devEui (.ofNotification n)) next)
      (.call (.log devEui (.ofNotification n')) next')
  | offer {names : Names} {n : Notification} {next : (Call.send n).Answer → Program α}
      {next' : (Call.send n).Answer → Program β} (hTolerated : (Call.send n).isTolerated = true)
      (h : ∀ answer', Twins Φ names (next (.ok ())) (next' answer')) :
    Twins Φ names (.call (.send n) next) (.call (.send n) next')
  | deliver {names : Names} {n n' : Notification} {next : (Call.send n).Answer → Program α}
      {next' : (Call.send n').Answer → Program β} (hStrict : (Call.send n).isTolerated = false)
      (hTells : names.Tells n n') (h : ∀ answer, Twins Φ names (next answer) (next' answer)) :
    Twins Φ names (.call (.send n) next) (.call (.send n') next')

namespace Program.Twins

theorem mono {α β : Type} {Φ Ψ : Names → α → β → Prop} {names : Names} {p : Program α}
    {p' : Program β} (h : p.Twins Φ names p') (hΦ : ∀ names a b, Φ names a b → Ψ names a b) :
    p.Twins Ψ names p' := by
  induction h with
  | done h => exact .done (hΦ _ _ _ h)
  | abort => exact .abort
  | storage hStorage _ ih => exact .storage hStorage ih
  | gateways _ _ ihKnown ihLost => exact .gateways ihKnown ihLost
  | log hTells _ ih => exact .log hTells ih
  | offer hTolerated _ ih => exact .offer hTolerated ih
  | deliver hStrict hTells _ ih => exact .deliver hStrict hTells ih

theorem bind {α β γ δ : Type} {Φ : Names → α → β → Prop} {Ψ : Names → γ → δ → Prop}
    {names : Names} {p : Program α} {p' : Program β} {f : α → Program γ} {f' : β → Program δ}
    (h : p.Twins Φ names p') (hf : ∀ names a b, Φ names a b → (f a).Twins Ψ names (f' b)) :
    (p >>= f).Twins Ψ names (p' >>= f') := by
  induction h with
  | done h => exact hf _ _ _ h
  | abort => exact .abort
  | storage hStorage _ ih => exact .storage hStorage ih
  | gateways _ _ ihKnown ihLost => exact .gateways ihKnown ihLost
  | log hTells _ ih => exact .log hTells ih
  | offer hTolerated _ ih => exact .offer hTolerated ih
  | deliver hStrict hTells _ ih => exact .deliver hStrict hTells ih

end Program.Twins

/-! ## Conditions and worlds -/

/-- Whether two calls are the same, but for the names of gateways that are told of. -/
def Call.Resembles (c c' : Call) : Prop :=
  c' = c ∨ (∃ n, c = .send n ∧ c' = .send n.withoutNames) ∨
    ∃ devEui n, c = .log devEui (.ofNotification n) ∧
      c' = .log devEui (.ofNotification n.withoutNames)

/-- Whether the conditions of two runs whose states are related are the same except at tolerated calls:
the clock shows the same, other calls fail alike, and a tolerated call does not fail in the first run. -/
structure Conditions.Twin {σ τ : Type} (R : σ → τ → Prop) (k : Conditions σ) (k' : Conditions τ) :
    Prop where
  clock : ∀ {s s'}, R s s' → (k'.clock s').1 = (k.clock s).1 ∧ R (k.clock s).2 (k'.clock s').2
  strict : ∀ {s s' c c'}, R s s' → c.isTolerated = false → c.Resembles c' →
    (k'.failure c' s').1 = (k.failure c s).1 ∧ R (k.failure c s).2 (k'.failure c' s').2
  tolerated : ∀ {s s' c c'}, R s s' → c.isTolerated = true → c.Resembles c' →
    (k.failure c s).1 = none ∧ R (k.failure c s).2 (k'.failure c' s').2

/-- Whether two worlds have the same store, and conditions whose states are related. -/
structure World.Twin {σ τ : Type} (R : σ → τ → Prop) (w : World σ) (w' : World τ) : Prop where
  store : w'.store = w.store
  state : R w.state w'.state

namespace Names

theorem Tells.resembles_send {names : Names} {n n' : Notification} (h : names.Tells n n') :
    (Call.send n).Resembles (.send n') := by
  cases names with
  | unasked => exact Or.inl (by rw [h.1])
  | known => exact Or.inl (by rw [show n' = n from h])
  | lost => exact Or.inr (Or.inl ⟨n, rfl, by rw [show n' = n.withoutNames from h]⟩)

theorem Tells.resembles_log {names : Names} {n n' : Notification} (h : names.Tells n n')
    (devEui : Eui64) :
    (Call.log devEui (.ofNotification n)).Resembles (.log devEui (.ofNotification n')) := by
  cases names with
  | unasked => exact Or.inl (by rw [h.1])
  | known => exact Or.inl (by rw [show n' = n from h])
  | lost => exact Or.inr (Or.inr ⟨devEui, n, rfl, by rw [show n' = n.withoutNames from h]⟩)

end Names

namespace World

variable {σ τ α β : Type} {R : σ → τ → Prop} {k : Conditions σ} {k' : Conditions τ} {w : World σ}
  {w' : World τ}

/-- Whether the look-up of the gateways fails in a run. -/
def LosesNames (k : Conditions σ) (w : World σ) (p : Program α) : Prop :=
  ∃ ids e, w.Meets k p ⟨.getGateways ids, .error e⟩

/-! ### One call -/

/-- A call that fails alike in twin worlds, and is carried out alike there. -/
theorem guarded_twin {c : Call} {act : World σ → α × World σ} {act' : World τ → α × World τ}
    (hw : w.Twin R w')
    (hFailure : (k'.failure c w'.state).1 = (k.failure c w.state).1 ∧
      R (k.failure c w.state).2 (k'.failure c w'.state).2)
    (hAct : ∀ v v', v.Twin R v' → (act' v').1 = (act v).1 ∧ (act v).2.Twin R (act' v').2) :
    (w'.guarded k' c act').1 = (w.guarded k c act).1 ∧
      (w.guarded k c act).2.Twin R (w'.guarded k' c act').2 := by
  unfold guarded
  rcases hFirst : k.failure c w.state with ⟨e, s⟩
  rcases hSecond : k'.failure c w'.state with ⟨e', s'⟩
  rw [hFirst, hSecond] at hFailure
  obtain ⟨rfl, hState⟩ := hFailure
  cases e' with
  | none =>
    obtain ⟨hAnswer, hTwin⟩ := hAct { w with state := s } { w' with state := s' } ⟨hw.store, hState⟩
    exact ⟨congrArg Except.ok hAnswer, hTwin⟩
  | some e => exact ⟨rfl, hw.store, hState⟩

/-- A call of storage has the same answer in both runs. -/
theorem answer_storage_twin (hk : Conditions.Twin R k k') (hw : w.Twin R w') {c : Call}
    (hStorage : c.isStorage = true) :
    (answer k' c w').1 = (answer k c w).1 ∧ (answer k c w).2.Twin R (answer k' c w').2 := by
  have hFailure := hk.strict hw.state (Call.isTolerated_of_isStorage hStorage) (Or.inl rfl)
  -- what a call does that has not failed depends on the store and the clock only
  cases c with
  | now => exact ⟨(hk.clock hw.state).1, hw.store, (hk.clock hw.state).2⟩
  | getDevice devEui =>
    refine guarded_twin hw hFailure fun v v' hv => ⟨?_, hv⟩
    rw [hv.store]
  | updateDevice devEui mutation =>
    refine guarded_twin hw hFailure fun v v' hv => ⟨?_, ?_, hv.state⟩
    · rw [hv.store]
    · rw [hv.store]
  | getApplication id =>
    refine guarded_twin hw hFailure fun v v' hv => ⟨?_, hv⟩
    rw [hv.store]
  | createActivation devEui devAddr appSKey =>
    refine guarded_twin hw hFailure fun v v' hv => ?_
    obtain ⟨hTime, hState⟩ := hk.clock hv.state
    rcases hFirst : k.clock v.state with ⟨time, s⟩
    rcases hSecond : k'.clock v'.state with ⟨time', s'⟩
    rw [hFirst, hSecond] at hTime hState
    obtain rfl : time' = time := hTime
    refine ⟨?_, ?_, hState⟩
    · rw [hv.store]
    · rw [hv.store]
  | lastActivation devEui =>
    refine guarded_twin hw hFailure fun v v' hv => ⟨?_, hv⟩
    rw [hv.store]
  | getGateways ids => cases hStorage
  | log devEui entry => cases hStorage
  | send n => cases hStorage

/-- A call of storage is no effect. -/
theorem answer_storage_effects (k : Conditions σ) (w : World σ) {c : Call}
    (hStorage : c.isStorage = true) : (answer k c w).2.effects = w.effects := by
  rw [answer_effects]
  cases c with
  | log devEui entry => cases hStorage
  | send n => cases hStorage
  | _ => simp [Exchange.effect?]

/-- A look-up of the gateways finds them in the first run, and in the second run it finds the same or
fails. -/
theorem answer_getGateways_twin (hk : Conditions.Twin R k k') (hw : w.Twin R w') (ids : List Eui64) :
    ∃ gateways, (answer k (.getGateways ids) w).1 = .ok gateways ∧
      ((answer k' (.getGateways ids) w').1 = .ok gateways ∨
        ∃ e, (answer k' (.getGateways ids) w').1 = .error e) ∧
      (answer k (.getGateways ids) w).2.Twin R (answer k' (.getGateways ids) w').2 := by
  obtain ⟨hNone, hState⟩ := hk.tolerated (c := .getGateways ids) hw.state rfl (Or.inl rfl)
  simp only [answer, guarded]
  rcases hFirst : k.failure (.getGateways ids) w.state with ⟨e, s⟩
  rcases hSecond : k'.failure (.getGateways ids) w'.state with ⟨e', s'⟩
  rw [hFirst, hSecond] at hState
  rw [hFirst] at hNone
  obtain rfl : e = none := hNone
  cases e' with
  | none => exact ⟨_, rfl, Or.inl (by rw [hw.store]), hw.store, hState⟩
  | some e => exact ⟨_, rfl, Or.inr ⟨e, rfl⟩, hw.store, hState⟩

/-- A call to the outside that is tolerated succeeds in the first run. -/
theorem outward_tolerated_twin (hw : w.Twin R w') {c c' : Call} (effect effect' : Bool → Effect)
    (hFailure : (k.failure c w.state).1 = none ∧
      R (k.failure c w.state).2 (k'.failure c' w'.state).2) :
    (w.outward k c effect).1 = .ok () ∧
      (w.outward k c effect).2.Twin R (w'.outward k' c' effect').2 ∧
      (w.outward k c effect).2.effects = w.effects ++ [effect true] ∧
      ∃ ok', (w'.outward k' c' effect').2.effects = w'.effects ++ [effect' ok'] := by
  unfold outward
  rcases hFirst : k.failure c w.state with ⟨e, s⟩
  rcases hSecond : k'.failure c' w'.state with ⟨e', s'⟩
  rw [hFirst, hSecond] at hFailure
  obtain ⟨rfl, hState⟩ := hFailure
  cases e' with
  | none => exact ⟨rfl, ⟨hw.store, hState⟩, rfl, true, rfl⟩
  | some e => exact ⟨rfl, ⟨hw.store, hState⟩, rfl, false, rfl⟩

/-- A call to the outside that is not tolerated has the same answer in both runs. -/
theorem outward_strict_twin (hw : w.Twin R w') {c c' : Call} (effect effect' : Bool → Effect)
    (hFailure : (k'.failure c' w'.state).1 = (k.failure c w.state).1 ∧
      R (k.failure c w.state).2 (k'.failure c' w'.state).2) :
    (w'.outward k' c' effect').1 = (w.outward k c effect).1 ∧
      (w.outward k c effect).2.Twin R (w'.outward k' c' effect').2 ∧
      ∃ ok, (w.outward k c effect).2.effects = w.effects ++ [effect ok] ∧
        (w'.outward k' c' effect').2.effects = w'.effects ++ [effect' ok] := by
  unfold outward
  rcases hFirst : k.failure c w.state with ⟨e, s⟩
  rcases hSecond : k'.failure c' w'.state with ⟨e', s'⟩
  rw [hFirst, hSecond] at hFailure
  obtain ⟨rfl, hState⟩ := hFailure
  cases e' with
  | none => exact ⟨rfl, ⟨hw.store, hState⟩, true, rfl, rfl⟩
  | some e => exact ⟨rfl, ⟨hw.store, hState⟩, false, rfl, rfl⟩

/-! ### Whole runs -/

theorem run_call {c : Call} {next : c.Answer → Program α} :
    w.run k (.call c next) = (answer k c w).2.run k (next (answer k c w).1) := rfl

theorem meets_call_iff {c : Call} {next : c.Answer → Program α} {e : Exchange} :
    w.Meets k (.call c next) e ↔
      e = ⟨c, (answer k c w).1⟩ ∨ (answer k c w).2.Meets k (next (answer k c w).1) e := by
  constructor
  · rintro ⟨es, ⟨a, rest, rfl, hEnds⟩, ⟨ha, hPlays⟩, he⟩
    have ha : a = (answer k c w).1 := ha
    subst ha
    rcases List.mem_cons.mp he with rfl | he
    · exact Or.inl rfl
    · exact Or.inr ⟨rest, hEnds, hPlays, he⟩
  · rintro (rfl | ⟨rest, hEnds, hPlays, he⟩)
    · obtain ⟨es, hEnds, hPlays⟩ := exists_plays k (.call c next) w
      obtain ⟨a, rest, rfl, hEnds'⟩ := hEnds
      have ha : a = (answer k c w).1 := hPlays.1
      exact ⟨_, ⟨a, rest, rfl, hEnds'⟩, hPlays, by simp [ha]⟩
    · exact ⟨⟨c, _⟩ :: rest, ⟨_, rest, rfl, hEnds⟩, ⟨rfl, hPlays⟩, List.mem_cons_of_mem _ he⟩

/-- A call loses the names if it is a look-up of the gateways that fails, or if what follows does. -/
theorem losesNames_call_iff {c : Call} {next : c.Answer → Program α} :
    LosesNames k w (.call c next) ↔
      (∃ ids e, (⟨c, (answer k c w).1⟩ : Exchange) = ⟨.getGateways ids, .error e⟩) ∨
        LosesNames k (answer k c w).2 (next (answer k c w).1) := by
  unfold LosesNames
  simp only [meets_call_iff, exists_or]
  refine or_congr ?_ Iff.rfl
  constructor
  · rintro ⟨ids, e, h⟩
    exact ⟨ids, e, h.symm⟩
  · rintro ⟨ids, e, h⟩
    exact ⟨ids, e, h.symm⟩

/-- A call that is no look-up of the gateways leaves it to what follows whether the names are lost. -/
theorem losesNames_call_of_ne {c : Call} {next : c.Answer → Program α} (h : ∀ ids, c ≠ .getGateways ids) :
    LosesNames k w (.call c next) ↔ LosesNames k (answer k c w).2 (next (answer k c w).1) := by
  rw [losesNames_call_iff, or_iff_right]
  rintro ⟨ids, e, hCall⟩
  exact h ids (congrArg Exchange.call hCall)

/-- Whether two runs that have started in twin worlds have ended alike: with results as they should be, in
twin worlds, and with new effects that agree. -/
structure EndAlike (R : σ → τ → Prop) (Φ : Names → α → β → Prop) (names : Names) (w : World σ)
    (w' : World τ) (names' : Names) (o : Option α × World σ) (o' : Option β × World τ) : Prop where
  result : Option.Rel (Φ names') o.1 o'.1
  twin : o.2.Twin R o'.2
  becomes : names.Becomes names'
  effects : ∃ new new', o.2.effects = w.effects ++ new ∧ o'.2.effects = w'.effects ++ new' ∧
    List.Forall₂ (Effect.Agrees (names' = .lost)) new new'

/-- Runs end alike if they have got alike to worlds from where they end alike. -/
theorem EndAlike.after {Φ : Names → α → β → Prop} {names names' : Names} {v : World σ} {v' : World τ}
    {o : Option α × World σ} {o' : Option β × World τ} (first first' : List Effect)
    (h : EndAlike R Φ names v v' names' o o') (hFirst : v.effects = w.effects ++ first)
    (hSecond : v'.effects = w'.effects ++ first')
    (hAgrees : List.Forall₂ (Effect.Agrees (names' = .lost)) first first') :
    EndAlike R Φ names w w' names' o o' := by
  obtain ⟨new, new', hNew, hNew', hRest⟩ := h.effects
  refine ⟨h.result, h.twin, h.becomes, first ++ new, first' ++ new', ?_, ?_, ?_⟩
  · rw [hNew, hFirst, List.append_assoc]
  · rw [hNew', hSecond, List.append_assoc]
  · exact List.rel_append hAgrees hRest

end World

/-- Twins that are run in twin worlds end alike, and the names of the gateways are lost exactly if their
look-up fails in the second run. -/
theorem Program.Twins.run {σ τ α β : Type} {R : σ → τ → Prop} {k : Conditions σ} {k' : Conditions τ}
    {Φ : Names → α → β → Prop} {names : Names} {p : Program α} {p' : Program β}
    (h : p.Twins Φ names p') (hk : Conditions.Twin R k k') {w : World σ} {w' : World τ}
    (hw : w.Twin R w') :
    ∃ names', World.EndAlike R Φ names w w' names' (w.run k p) (w'.run k' p') ∧
      (names' = .lost ↔ names = .lost ∨ World.LosesNames k' w' p') := by
  -- one case for each rule: the call is answered in both worlds, and the rest is known to end alike
  induction h generalizing w w' with
  | @done names a b h =>
    have hAlike : World.EndAlike R Φ names w w' names (w.run k (.done a)) (w'.run k' (.done b)) :=
      ⟨.some h, hw, Or.inr rfl, [], [], (List.append_nil _).symm, (List.append_nil _).symm, .nil⟩
    exact ⟨_, hAlike, by simp [World.LosesNames, World.Meets, Ends]⟩
  | @abort names =>
    have hAlike : World.EndAlike R Φ names w w' names (w.run k .abort) (w'.run k' .abort) :=
      ⟨.none, hw, Or.inr rfl, [], [], (List.append_nil _).symm, (List.append_nil _).symm, .nil⟩
    exact ⟨_, hAlike, by simp [World.LosesNames, World.Meets, Ends]⟩
  | @storage names c next next' hStorage _ ih =>
    obtain ⟨hAnswer, hTwin⟩ := World.answer_storage_twin hk hw hStorage
    obtain ⟨names', hAlike, hLost⟩ := ih (World.answer k c w).1 hTwin
    have hGateways : ∀ ids, c ≠ .getGateways ids := by
      rintro ids rfl
      cases hStorage
    refine ⟨names', ?_, ?_⟩
    · rw [World.run_call, World.run_call, hAnswer]
      refine hAlike.after [] [] ?_ ?_ .nil
      · rw [World.answer_storage_effects k w hStorage, List.append_nil]
      · rw [World.answer_storage_effects k' w' hStorage, List.append_nil]
    · rw [World.losesNames_call_of_ne hGateways, hAnswer]
      exact hLost
  | @gateways ids next next' _ _ ihKnown ihLost =>
    obtain ⟨gateways, hFirst, hSecond, hTwin⟩ := World.answer_getGateways_twin hk hw ids
    -- neither look-up leaves an effect
    have hEffects : (World.answer k (.getGateways ids) w).2.effects = w.effects ++ [] := by
      rw [World.answer_effects, hFirst]
      rfl
    have hEffects' : (World.answer k' (.getGateways ids) w').2.effects = w'.effects ++ [] :=
      World.answer_effects k' (.getGateways ids) w'
    rw [World.run_call, World.run_call, hFirst, World.losesNames_call_iff]
    rcases hSecond with hSecond | ⟨e, hSecond⟩
    · obtain ⟨names', hAlike, hLost⟩ := ihKnown gateways hTwin
      rw [hSecond]
      refine ⟨names', ?_, ?_⟩
      · have hAsked : World.EndAlike R Φ .unasked _ _ names' _ _ :=
          { hAlike with becomes := Or.inl rfl }
        exact hAsked.after [] [] hEffects hEffects' .nil
      · simpa using hLost
    · obtain ⟨names', hAlike, hLost⟩ := ihLost gateways e hTwin
      rw [hSecond]
      refine ⟨names', ?_, ?_⟩
      · have hAsked : World.EndAlike R Φ .unasked _ _ names' _ _ :=
          { hAlike with becomes := Or.inl rfl }
        exact hAsked.after [] [] hEffects hEffects' .nil
      · exact iff_of_true (hLost.mpr (Or.inl rfl)) (Or.inr (Or.inl ⟨ids, e, rfl⟩))
  | @log names devEui n n' next next' hTells _ ih =>
    have hFailure := hk.tolerated hw.state rfl (hTells.resembles_log devEui)
    -- the first run goes on with `.ok`, and the second one with the same whatever the log has said
    obtain ⟨hAnswer, hTwin, hEffects, ok', hEffects'⟩ := World.outward_tolerated_twin hw
      (.logged devEui (.ofNotification n)) (.logged devEui (.ofNotification n')) hFailure
    obtain ⟨names', hAlike, hLost⟩ :=
      ih (World.answer k' (.log devEui (.ofNotification n')) w').1 hTwin
    refine ⟨names', ?_, ?_⟩
    · rw [World.run_call, World.run_call, World.answer, hAnswer]
      exact hAlike.after _ _ hEffects hEffects'
        (.cons (.logged (hTells.agrees hAlike.becomes) ok') .nil)
    · rw [World.losesNames_call_of_ne (by simp)]
      exact hLost
  | @offer names n next next' hTolerated _ ih =>
    have hFailure := hk.tolerated hw.state hTolerated (Or.inl rfl)
    obtain ⟨hAnswer, hTwin, hEffects, ok', hEffects'⟩ :=
      World.outward_tolerated_twin hw (.sent n) (.sent n) hFailure
    obtain ⟨names', hAlike, hLost⟩ := ih (World.answer k' (.send n) w').1 hTwin
    refine ⟨names', ?_, ?_⟩
    · rw [World.run_call, World.run_call, World.answer, hAnswer]
      exact hAlike.after _ _ hEffects hEffects' (.cons (.offered hTolerated ok') .nil)
    · rw [World.losesNames_call_of_ne (by simp)]
      exact hLost
  | @deliver names n n' next next' hStrict hTells _ ih =>
    have hFailure := hk.strict hw.state hStrict hTells.resembles_send
    obtain ⟨hAnswer, hTwin, ok, hEffects, hEffects'⟩ :=
      World.outward_strict_twin hw (.sent n) (.sent n') hFailure
    obtain ⟨names', hAlike, hLost⟩ := ih (World.answer k (.send n) w).1 hTwin
    refine ⟨names', ?_, ?_⟩
    · rw [World.run_call, World.run_call, World.answer, World.answer, hAnswer]
      exact hAlike.after _ _ hEffects hEffects'
        (.cons (.delivered (hTells.agrees hAlike.becomes) hStrict ok) .nil)
    · rw [World.losesNames_call_of_ne (by simp), World.answer, hAnswer]
      exact hLost

end Lorawan
