import Lorawan.Proofs.Service.Conversation
import Lorawan.Proofs.Store.Mutation

/-!
# Runs and what they leave behind

A conversation is *played* in a world when every answer in it is the one that this world gives.  A run is
a conversation played to its end (`World.run_eq_iff`), so every law about the conversations of a program
is a law about its runs.

A played conversation determines what becomes of the world, apart from the device rows and the state of
the conditions: its log entries and notifications are the new effects (`World.Plays.effects`), its new
activations are appended to the activations of the store (`World.Plays.activations`), and applications
and gateways stay as they are.
-/

namespace Lorawan

namespace Exchange

/-- The effect of a call with this answer. -/
def effect? : Exchange → Option Effect
  | ⟨.log devEui entry, answer⟩ => some (.logged devEui entry answer.isOk)
  | ⟨.send n, answer⟩ => some (.sent n answer.isOk)
  | _ => none

/-- The activation that a call with this answer has added. -/
def created? : Exchange → Option Activation
  | ⟨.createActivation .., .ok a⟩ => some a
  | _ => none

end Exchange

namespace Store

variable (s : Store) (devEui : Eui64) (mutation : DeviceMutation)

/-- An update changes the devices alone. -/
theorem updateDevice_eq : (s.updateDevice devEui mutation).2 =
    { s with devices := (s.updateDevice devEui mutation).2.devices } := by
  unfold updateDevice
  split <;> rfl

@[simp] theorem updateDevice_activations :
    (s.updateDevice devEui mutation).2.activations = s.activations := by
  rw [updateDevice_eq]

@[simp] theorem updateDevice_applications :
    (s.updateDevice devEui mutation).2.applications = s.applications := by
  rw [updateDevice_eq]

@[simp] theorem updateDevice_gateways :
    (s.updateDevice devEui mutation).2.gateways = s.gateways := by
  rw [updateDevice_eq]

/-- An update changes the row of its device alone, and not what the device is called there. -/
theorem updateDevice_devEui (id : Eui64) :
    ((s.updateDevice devEui mutation).2.getDevice id).map Device.devEui =
      (s.getDevice id).map Device.devEui := by
  unfold updateDevice
  split
  · rfl
  · next d hDevice =>
    show ((s.devices.insert devEui (d.apply mutation)).get? id).map Device.devEui = _
    rw [Table.get?_insert]
    by_cases hId : id = devEui
    · subst hId
      rw [if_pos rfl, hDevice]
      simp
    · rw [if_neg hId]
      rfl

end Store

namespace World

variable {σ α : Type} {k : Conditions σ} {w w' : World σ}

/-! ## One call -/

/-- A call that did not fail was carried out, in a world whose conditions have gone on. -/
theorem guarded_eq_ok {c : Call} {act : World σ → α × World σ} {a : α}
    (h : w.guarded k c act = (.ok a, w')) : ∃ state, act { w with state } = (a, w') := by
  unfold guarded at h
  split at h
  · cases h
  · next state _ =>
    obtain ⟨hAnswer, hWorld⟩ := Prod.mk.inj h
    exact ⟨state, Prod.ext (Except.ok.inj hAnswer) hWorld⟩

theorem answer_updateDevice_ok {devEui : Eui64} {mutation : DeviceMutation} {d : Device}
    (h : answer k (.updateDevice devEui mutation) w = (.ok (some d), w')) :
    ∃ row, w.store.getDevice devEui = some row ∧ d = row.apply mutation := by
  rw [answer] at h
  obtain ⟨state, hAct⟩ := guarded_eq_ok h
  obtain ⟨hDevice, -⟩ := Prod.mk.inj hAct
  -- the update is a `match` on the row
  split at hDevice
  · cases hDevice
  · next row hRow => exact ⟨row, hRow, (Option.some.inj hDevice).symm⟩

theorem answer_getApplication_ok {id : Int64} {a : Option Application}
    (h : answer k (.getApplication id) w = (.ok a, w')) : a = w.store.getApplication id := by
  rw [answer] at h
  obtain ⟨state, hAct⟩ := guarded_eq_ok h
  exact (Prod.mk.inj hAct).1.symm

theorem answer_createActivation_ok {devEui : Eui64} {devAddr : DevAddr} {appSKey : Aes128Key}
    {a : Activation} (h : answer k (.createActivation devEui devAddr appSKey) w = (.ok a, w')) :
    a.devEui = devEui ∧ a.devAddr = devAddr ∧ a.appSKey = appSKey := by
  rw [answer] at h
  obtain ⟨state, hAct⟩ := guarded_eq_ok h
  obtain ⟨rfl, -⟩ := Prod.mk.inj hAct
  exact ⟨rfl, rfl, rfl⟩

theorem answer_lastActivation_ok {devEui : Eui64} {a : Option Activation}
    (h : answer k (.lastActivation devEui) w = (.ok a, w')) :
    a = w.store.lastActivation devEui ∧ w'.store = w.store := by
  rw [answer] at h
  obtain ⟨state, hAct⟩ := guarded_eq_ok h
  obtain ⟨rfl, rfl⟩ := Prod.mk.inj hAct
  exact ⟨rfl, rfl⟩

theorem answer_getGateways_ok {ids : List Eui64} {gateways : Table Eui64 Gateway}
    (h : answer k (.getGateways ids) w = (.ok gateways, w')) :
    gateways = w.store.getGateways ids := by
  rw [answer] at h
  obtain ⟨state, hAct⟩ := guarded_eq_ok h
  exact (Prod.mk.inj hAct).1.symm

theorem answer_effects (k : Conditions σ) (c : Call) (w : World σ) :
    (answer k c w).2.effects = w.effects ++ (Exchange.effect? ⟨c, (answer k c w).1⟩).toList := by
  cases c <;> simp only [answer, guarded, outward] <;> (try split) <;>
    simp [Exchange.effect?, Except.isOk, Except.toBool]

theorem answer_activations (k : Conditions σ) (c : Call) (w : World σ) :
    (answer k c w).2.store.activations =
      w.store.activations ++ (Exchange.created? ⟨c, (answer k c w).1⟩).toList := by
  cases c <;> simp only [answer, guarded, outward] <;> (try split) <;>
    simp [Exchange.created?, Store.insertActivation]

theorem answer_applications (k : Conditions σ) (c : Call) (w : World σ) :
    (answer k c w).2.store.applications = w.store.applications := by
  cases c <;> simp only [answer, guarded, outward] <;> (try split) <;>
    simp [Store.insertActivation]

theorem answer_gateways (k : Conditions σ) (c : Call) (w : World σ) :
    (answer k c w).2.store.gateways = w.store.gateways := by
  cases c <;> simp only [answer, guarded, outward] <;> (try split) <;>
    simp [Store.insertActivation]

theorem answer_devEui (k : Conditions σ) (id : Eui64) (c : Call) (w : World σ) :
    ((answer k c w).2.store.getDevice id).map Device.devEui =
      (w.store.getDevice id).map Device.devEui := by
  cases c <;> simp only [answer, guarded, outward] <;> (try split) <;>
    first | rfl | exact Store.updateDevice_devEui ..

/-! ## Played conversations -/

/-- Whether a conversation has the answers that a world gives, and ends in this world. -/
def Plays (k : Conditions σ) : World σ → List Exchange → World σ → Prop
  | w, [], w' => w' = w
  | w, e :: es, w' => e.answer = (answer k e.call w).1 ∧ Plays k (answer k e.call w).2 es w'

theorem plays_append_iff {es₁ es₂ : List Exchange} :
    Plays k w (es₁ ++ es₂) w' ↔ ∃ v, Plays k w es₁ v ∧ Plays k v es₂ w' := by
  induction es₁ generalizing w with
  | nil => simp [Plays]
  | cons e es₁ ih =>
    simp only [List.cons_append, Plays, ih]
    constructor
    · rintro ⟨ha, v, h₁, h₂⟩
      exact ⟨v, ⟨ha, h₁⟩, h₂⟩
    · rintro ⟨v, ⟨ha, h₁⟩, h₂⟩
      exact ⟨ha, v, h₁, h₂⟩

theorem plays_cons_iff {c : Call} {a : c.Answer} {es : List Exchange} :
    Plays k w (⟨c, a⟩ :: es) w' ↔ ∃ v, answer k c w = (a, v) ∧ Plays k v es w' := by
  constructor
  · rintro ⟨ha, h⟩
    exact ⟨(answer k c w).2, Prod.ext ha.symm rfl, h⟩
  · rintro ⟨v, hv, h⟩
    rw [Plays, hv]
    exact ⟨rfl, h⟩

theorem plays_nil_iff : Plays k w [] w' ↔ w' = w := Iff.rfl

/-- A run is a conversation that is played to its end. -/
theorem run_eq_iff {p : Program α} {o : Option α} :
    w.run k p = (o, w') ↔ ∃ es, p.Ends es o ∧ Plays k w es w' := by
  -- a program makes its calls whatever the world, so the induction is on the program
  induction p generalizing w with
  | done a =>
    constructor
    · intro h
      obtain ⟨rfl, rfl⟩ := Prod.mk.inj h
      exact ⟨[], ⟨rfl, rfl⟩, rfl⟩
    · rintro ⟨es, ⟨rfl, rfl⟩, rfl⟩
      rfl
  | abort =>
    constructor
    · intro h
      obtain ⟨rfl, rfl⟩ := Prod.mk.inj h
      exact ⟨[], ⟨rfl, rfl⟩, rfl⟩
    · rintro ⟨es, ⟨rfl, rfl⟩, rfl⟩
      rfl
  | call c next ih =>
    have hStep : w.run k (.call c next) =
        (answer k c w).2.run k (next (answer k c w).1) := rfl
    rw [hStep, ih]
    constructor
    · rintro ⟨es, hEnds, hPlays⟩
      exact ⟨⟨c, _⟩ :: es, ⟨_, es, rfl, hEnds⟩, rfl, hPlays⟩
    · rintro ⟨_, ⟨a, es, rfl, hEnds⟩, ha, hPlays⟩
      exact ⟨es, ha ▸ hEnds, hPlays⟩

theorem exists_plays (k : Conditions σ) (p : Program α) (w : World σ) :
    ∃ es, p.Ends es (w.run k p).1 ∧ Plays k w es (w.run k p).2 :=
  run_eq_iff.mp rfl

/-- A run of a service made of two parts stops where its first part has stopped it. -/
theorem run_service_bind {β : Type} {s : Service α} {f : α → Service β} :
    w.run k (s >>= f).program =
      match w.run k s.program with
      | (some (.ok a), v) => v.run k (f a).program
      | (some (.error e), v) => (some (.error e), v)
      | (none, v) => (none, v) := by
  rw [Service.program_bind]
  unfold World.run
  rw [Program.run_bind]
  rcases Program.run (answer k) s.program w with ⟨_ | e | a, v⟩ <;> rfl

namespace Plays

variable {τ : Type} {es : List Exchange}

/-- What no call changes is the same after a conversation. -/
theorem unchanged (view : World σ → τ) (h : Plays k w es w')
    (hView : ∀ c w, view (answer k c w).2 = view w) : view w' = view w := by
  induction es generalizing w with
  | nil => rw [show w' = w from h]
  | cons e es ih => rw [ih h.2, hView]

/-- A list to which a call at most appends something grows by what the exchanges append. -/
theorem appended (view : World σ → List τ) {part : Exchange → Option τ} (h : Plays k w es w')
    (hView : ∀ c w, view (answer k c w).2 = view w ++ (part ⟨c, (answer k c w).1⟩).toList) :
    view w' = view w ++ es.filterMap part := by
  induction es generalizing w with
  | nil => simp [show w' = w from h]
  | cons e es ih =>
    obtain ⟨ha, h⟩ := h
    rw [ih h, hView, ← ha, List.filterMap_cons, List.append_assoc]
    cases part e <;> rfl

/-- Every answer of a played conversation was given in a world that a part of it has led to. -/
theorem answered (h : Plays k w es w') {e : Exchange} (he : e ∈ es) :
    ∃ es₁ u, Plays k w es₁ u ∧ answer k e.call u = (e.answer, (answer k e.call u).2) := by
  induction es generalizing w with
  | nil => cases he
  | cons first es ih =>
    rcases List.mem_cons.mp he with rfl | he
    · exact ⟨[], w, rfl, Prod.ext h.1.symm rfl⟩
    · obtain ⟨es₁, u, hPlays, hAnswer⟩ := ih h.2 he
      exact ⟨first :: es₁, u, ⟨h.1, hPlays⟩, hAnswer⟩

theorem effects (h : Plays k w es w') :
    w'.effects = w.effects ++ es.filterMap Exchange.effect? :=
  h.appended World.effects (answer_effects k)

/-- The effects of one kind are those of the exchanges. -/
theorem filterMap_effects {β : Type} (h : Plays k w es w') (part : Effect → Option β) :
    w'.effects.filterMap part =
      w.effects.filterMap part ++ es.filterMap fun e => e.effect?.bind part := by
  rw [h.effects, List.filterMap_append, List.filterMap_filterMap]

theorem activations (h : Plays k w es w') :
    w'.store.activations = w.store.activations ++ es.filterMap Exchange.created? :=
  h.appended (fun w => w.store.activations) (answer_activations k)

theorem applications (h : Plays k w es w') :
    w'.store.applications = w.store.applications :=
  h.unchanged (fun w => w.store.applications) (answer_applications k)

/-- No call changes what a device is called in its own row. -/
theorem devEui (h : Plays k w es w') (id : Eui64) :
    (w'.store.getDevice id).map Device.devEui = (w.store.getDevice id).map Device.devEui :=
  h.unchanged (fun w => (w.store.getDevice id).map Device.devEui) (answer_devEui k id)

theorem gateways (h : Plays k w es w') : w'.store.gateways = w.store.gateways :=
  h.unchanged (fun w => w.store.gateways) (answer_gateways k)

end Plays

end World

end Lorawan
