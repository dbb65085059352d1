import Lorawan.Proofs.Service.Delivery
import Lorawan.Proofs.Service.Report
import Lorawan.Proofs.Service.Tolerance

/-!
# Dispatches

Nothing reaches the outside but in pairs: a log entry that holds a notification, and right after it the
notification itself (`Dispatch.effects`).  Every operation makes dispatches alone, in every world and under
any conditions (`Operation.dispatches_in_pairs`).

* **Uplinks** make at most three, in this order: one of the join, which is made exactly if the activation
  was stored; one of the error of a decoder that has failed; and one of the data (`UplinkTells`).
* **Reports** make one exactly if they find their device and its application (`ReportTells`).
-/

namespace Lorawan

/-- A notification that goes to the log and to the integration, with whether each has taken it. -/
structure Dispatch where
  notification : Notification
  logged : Bool
  taken : Bool

namespace Dispatch

/-- The effects of a dispatch: the log entry of the device, which holds the notification as JSON under its
kind, and the notification. -/
def effects (x : Dispatch) : List Effect :=
  [.logged x.notification.origin.devEui ⟨x.notification.eventType, x.notification.toJson⟩ x.logged,
    .sent x.notification x.taken]

/-- The two calls of a dispatch, with their answers. -/
theorem effects_of_calls (n : Notification) (logged sent : Except ServiceError Unit) :
    [(⟨.log n.origin.devEui (.ofNotification n), logged⟩ : Exchange), ⟨.send n, sent⟩].filterMap
      Exchange.effect? = effects ⟨n, logged.isOk, sent.isOk⟩ := rfl

end Dispatch

namespace Service

variable {keks : KekSet} {decoder : UplinkDecoder} {es : List Exchange}

/-! ## Joins -/

/-- A look-up reaches nothing outside. -/
theorem effect?_of_isLookup {e : Exchange} (h : isLookup e.call = true) : e.effect? = none := by
  obtain ⟨c, answer⟩ := e
  cases c with
  | log => cases h
  | send => cases h
  | _ => rfl

/-- Whether a conversation has stored an activation and told of it, or has done neither. -/
inductive ToldJoin (es : List Exchange) : Option Dispatch → Prop
  | silent (hEffects : es.filterMap Exchange.effect? = [])
    (hRows : es.filterMap Exchange.created? = []) : ToldJoin es none
  | told {x : Dispatch} {n : JoinNotification} {appSKey : Aes128Key} {row : Activation}
    (hEffects : es.filterMap Exchange.effect? = x.effects)
    (hRows : es.filterMap Exchange.created? = [row]) (hNotification : x.notification = .join n)
    (hCreated : ⟨.createActivation n.origin.devEui n.devAddr appSKey, .ok row⟩ ∈ es) :
    ToldJoin es (some x)

namespace ToldJoin

variable {join : Option Dispatch}

theorem effects (h : ToldJoin es join) :
    es.filterMap Exchange.effect? = join.toList.flatMap Dispatch.effects := by
  cases h with
  | silent hEffects hRows => exact hEffects
  | told hEffects hRows hNotification hCreated => simpa using hEffects

/-- What comes before and after a join does not count if it leaves nothing behind. -/
theorem around {before after : List Exchange} (h : ToldJoin es join)
    (hOther : ∀ e ∈ before ++ after, e.effect? = none ∧ e.created? = none) :
    ToldJoin (before ++ es ++ after) join := by
  have hEffect : (before ++ es ++ after).filterMap Exchange.effect? = es.filterMap Exchange.effect? :=
    filterMap_around fun e he => (hOther e he).1
  have hRow : (before ++ es ++ after).filterMap Exchange.created? = es.filterMap Exchange.created? :=
    filterMap_around fun e he => (hOther e he).2
  cases h with
  | silent hEffects hRows => exact .silent (hEffect.trans hEffects) (hRow.trans hRows)
  | told hEffects hRows hNotification hCreated =>
    exact .told (hEffect.trans hEffects) (hRow.trans hRows) hNotification
      (List.mem_append_left after (List.mem_append_right before hCreated))

end ToldJoin

/-- An activation tells of its row if it has stored it, and fails if the news is not taken. -/
theorem activate_told {d : Device} {a : Application} {context : ActivationContext}
    {o : Option (Except ServiceError Activation)} (h : (activate keks d a context).Ends es o) :
    ∃ join, ToldJoin es join ∧ ∀ x ∈ join, x.taken = false → ∃ e, o = some (.error e) := by
  rcases activate_cases h with ⟨rfl, -⟩ | ⟨envelope, appSKey, -, -, ⟨e, rfl, -⟩ | ⟨row, logged, sent, rfl, rfl⟩⟩
  · exact ⟨none, .silent rfl rfl, nofun⟩
  · exact ⟨none, .silent rfl rfl, nofun⟩
  · refine ⟨some ⟨joined d a context, logged.isOk, sent.isOk⟩, .told rfl rfl rfl List.mem_cons_self, ?_⟩
    intro x hx hRefused
    obtain rfl := Option.some.inj hx
    rcases sent with e | ⟨⟨⟩⟩
    · exact ⟨dispatchError e, rfl⟩
    · cases hRefused

theorem joinLeg_told {d : Device} {a : Application} {context? : Option ActivationContext}
    {o : Option (Except ServiceError Unit)} (h : (joinLeg keks d a context?).Ends es o) :
    ∃ join, ToldJoin es join ∧ ∀ x ∈ join, x.taken = false → ∃ e, o = some (.error e) := by
  cases context? with
  | none =>
    obtain ⟨rfl, -⟩ := ends_pure_iff.mp h
    exact ⟨none, .silent rfl rfl, nofun⟩
  | some context =>
    obtain ⟨o', hActivate, rfl⟩ := ends_discard_iff.mp h
    obtain ⟨join, hTold, hRefused⟩ := activate_told hActivate
    refine ⟨join, hTold, fun x hx hTaken => ?_⟩
    obtain ⟨e, rfl⟩ := hRefused x hx hTaken
    exact ⟨e, rfl⟩

/-- An approach tells of nothing but its join, and fails if that is not taken. -/
theorem approach_told {r : UplinkRequest} {o : Option (Except ServiceError Located)}
    (h : (approach keks r).Ends es o) :
    ∃ join, ToldJoin es join ∧ ∀ x ∈ join, x.taken = false → ∃ e, o = some (.error e) := by
  cases approaches_of_ends h with
  | rejected hTx => exact ⟨none, .silent rfl rfl, nofun⟩
  | unseen hTx hMissing => exact ⟨none, .silent rfl rfl, nofun⟩
  | unowned hTx hMissing => exact ⟨none, .silent rfl rfl, nofun⟩
  | @halted time d a join e hTx hJoin =>
    obtain ⟨told, hTold, -⟩ := joinLeg_told hJoin
    have hAround : ToldJoin ([⟨.now, time⟩, ⟨.updateDevice r.devEui (.markSeen time), .ok (some d)⟩,
        ⟨.getApplication d.applicationId, .ok (some a)⟩] ++ join ++ []) told :=
      hTold.around (by simp [Exchange.effect?, Exchange.created?])
    rw [List.append_nil] at hAround
    exact ⟨told, hAround, fun _ _ _ => ⟨e, rfl⟩⟩
  | @joined tx time d a join answer _ hTx hJoin hResult =>
    obtain ⟨told, hTold, hRefused⟩ := joinLeg_told hJoin
    refine ⟨told, ?_, fun x hx hTaken => ?_⟩
    · show ToldJoin ([_, _, _] ++ join ++ [_]) told
      exact hTold.around (by simp [Exchange.effect?, Exchange.created?])
    · -- a join that is over was taken
      obtain ⟨e, hError⟩ := hRefused x hx hTaken
      cases hError

/-! ## Handovers -/

/-- Whether these are the dispatches of a handover: of the error of a decoder that has failed, and of the
data unless the decoder is cut short. -/
structure HandoverTells (decoder : UplinkDecoder) (r : UplinkRequest) (l : Located)
    (fault data : Option Dispatch) : Prop where
  fault_iff : fault.isSome = true ↔ ∃ payload e,
    FramePayload.decryptUplink l.session.appSKey l.session.devAddr r.fCnt r.data = .ok payload ∧
    decoder l.application.codec r.fPort payload = .error (.error e)
  fault_eq : ∀ x ∈ fault, ∃ e, x.notification = codecFault l.device l.application r.fCnt e
  data_iff : data.isSome = true ↔ ∃ payload,
    FramePayload.decryptUplink l.session.appSKey l.session.devAddr r.fCnt r.data = .ok payload ∧
    decoder l.application.codec r.fPort payload ≠ .error .abort
  data_eq : ∀ x ∈ data, ∃ n, x.notification = .dataUp n

theorem handover_tells {r : UplinkRequest} {l : Located} {o : Option (Except ServiceError Unit)}
    (h : (handover decoder r l).Ends es o) :
    ∃ fault data, HandoverTells decoder r l fault data ∧ es.filterMap Exchange.created? = [] ∧
      es.filterMap Exchange.effect? =
        fault.toList.flatMap Dispatch.effects ++ data.toList.flatMap Dispatch.effects := by
  cases hData : FramePayload.decryptUplink l.session.appSKey l.session.devAddr r.fCnt r.data with
  | error cause =>
    obtain ⟨rfl, -⟩ := handover_stops hData h
    exact ⟨none, none, ⟨by simp [hData], nofun, by simp [hData], nofun⟩, rfl, rfl⟩
  | ok payload =>
    rcases handover_cases hData h with ⟨report, object, known, logged, sent, hReport, rfl, -⟩ |
      ⟨hAbort, rfl, -⟩
    · let news : Notification := .dataUp (dataUp r l (knownGateways known) payload object)
      -- the report of a failure comes before the data
      rcases decodePayload_cases hReport with ⟨object', hObject, rfl, -⟩ |
        ⟨e, logged', sent', hError, rfl, -⟩ | ⟨-, -, hNone⟩
      · exact ⟨none, some ⟨news, logged.isOk, sent.isOk⟩,
          ⟨by simp [hData, hObject], nofun, by simp [hData, hObject], by simp [news]⟩, rfl, rfl⟩
      · exact ⟨some ⟨codecFault l.device l.application r.fCnt e, logged'.isOk, sent'.isOk⟩,
          some ⟨news, logged.isOk, sent.isOk⟩,
          ⟨by simp [hData, hError], by simp, by simp [hData, hError], by simp [news]⟩, rfl, rfl⟩
      · cases hNone
    · exact ⟨none, none, ⟨by simp [hData, hAbort], nofun, by simp [hData, hAbort], nofun⟩, rfl, rfl⟩

/-! ## Runs -/

variable {σ : Type} {k : Conditions σ} {w v w' : World σ} {r : UplinkRequest}

/-- Whether the activations have grown by one that a join tells of, or stayed as they were with no join
told of. -/
def TellsJoin (before after : Store) (join : Option Dispatch) : Prop :=
  (join = none ∧ after.activations = before.activations) ∨
    ∃ x n row, join = some x ∧ x.notification = .join n ∧
      after.activations = before.activations ++ [row] ∧
      row.devEui = n.origin.devEui ∧ row.devAddr = n.devAddr

theorem ToldJoin.tellsJoin {join : Option Dispatch} (h : ToldJoin es join)
    (hPlays : World.Plays k w es w') : TellsJoin w.store w'.store join := by
  have hActivations := hPlays.activations
  cases h with
  | silent hEffects hRows =>
    rw [hRows, List.append_nil] at hActivations
    exact Or.inl ⟨rfl, hActivations⟩
  | @told x n appSKey row hEffects hRows hNotification hCreated =>
    rw [hRows] at hActivations
    -- the row has the fields that it was asked for with
    obtain ⟨-, u, -, hAnswer⟩ := hPlays.answered hCreated
    obtain ⟨hDevice, hAddr, -⟩ := World.answer_createActivation_ok hAnswer
    exact Or.inr ⟨x, n, row, rfl, hNotification, hActivations, hDevice, hAddr⟩

/-- Whether an uplink that starts in a world gets to its payload and opens it. -/
structure Opens (k : Conditions σ) (keks : KekSet) (r : UplinkRequest) (w : World σ) (l : Located)
    (payload : List UInt8) : Prop where
  located : ∃ v, Locates k keks r w l v
  opened : FramePayload.decryptUplink l.session.appSKey l.session.devAddr r.fCnt r.data = .ok payload

/-- Whether these are the dispatches of an uplink that leads from a world to another: of its join, of the
error of its decoder, and of its data. -/
structure UplinkTells (k : Conditions σ) (server : Server) (r : UplinkRequest) (w w' : World σ)
    (join fault data : Option Dispatch) : Prop where
  joins : TellsJoin w.store w'.store join
  /-- Nothing follows a join that the integration has not taken. -/
  refused : ∀ x ∈ join, x.taken = false → fault = none ∧ data = none
  fault_iff : fault.isSome = true ↔ ∃ l payload e, Opens k server.keks r w l payload ∧
    server.decoder l.application.codec r.fPort payload = .error (.error e)
  fault_eq : ∀ x ∈ fault, ∃ n : ErrorNotification, x.notification = .error n ∧
    n.type = ErrorNotification.codecType ∧ n.fCnt = r.fCnt
  data_iff : data.isSome = true ↔ ∃ l payload, Opens k server.keks r w l payload ∧
    server.decoder l.application.codec r.fPort payload ≠ .error .abort
  data_eq : ∀ x ∈ data, ∃ n, x.notification = .dataUp n
  /-- The data are never left out after an error of the decoder. -/
  data_of_fault : fault.isSome = true → data.isSome = true

/-- An uplink that finds nothing has told of its join at most. -/
theorem uplinkTells_of_not_located {server : Server} {join : Option Dispatch}
    (hJoin : TellsJoin w.store w'.store join) (h : ¬∃ l v, Locates k server.keks r w l v) :
    UplinkTells k server r w w' join none none := by
  have hClosed : ∀ l payload, ¬Opens k server.keks r w l payload :=
    fun l payload hOpens => h ⟨l, hOpens.located⟩
  exact {
    joins := hJoin
    refused := fun _ _ _ => ⟨rfl, rfl⟩
    fault_iff := by simp [hClosed]
    fault_eq := nofun
    data_iff := by simp [hClosed]
    data_eq := nofun
    data_of_fault := nofun }

/-- An uplink that finds its session tells of its join, which is taken, and then what its handover
does. -/
theorem uplinkTells_of_located {server : Server} {l : Located} {join fault data : Option Dispatch}
    (hJoin : TellsJoin w.store w'.store join) (hTaken : ∀ x ∈ join, x.taken ≠ false)
    (h : Locates k server.keks r w l v) (hHandover : HandoverTells server.decoder r l fault data) :
    UplinkTells k server r w w' join fault data := by
  -- whatever else is found in this world is what was found
  have hOnly : ∀ {l' payload}, Opens k server.keks r w l' payload → l' = l := by
    rintro l' payload ⟨⟨v', h'⟩, -⟩
    exact h.unique h'
  have hFault : fault.isSome = true ↔ ∃ l payload e, Opens k server.keks r w l payload ∧
      server.decoder l.application.codec r.fPort payload = .error (.error e) := by
    rw [hHandover.fault_iff]
    constructor
    · rintro ⟨payload, e, hOpened, hError⟩
      exact ⟨l, payload, e, ⟨⟨v, h⟩, hOpened⟩, hError⟩
    · rintro ⟨l', payload, e, hOpens, hError⟩
      obtain rfl := hOnly hOpens
      exact ⟨payload, e, hOpens.opened, hError⟩
  have hData : data.isSome = true ↔ ∃ l payload, Opens k server.keks r w l payload ∧
      server.decoder l.application.codec r.fPort payload ≠ .error .abort := by
    rw [hHandover.data_iff]
    constructor
    · rintro ⟨payload, hOpened, hReturns⟩
      exact ⟨l, payload, ⟨⟨v, h⟩, hOpened⟩, hReturns⟩
    · rintro ⟨l', payload, hOpens, hReturns⟩
      obtain rfl := hOnly hOpens
      exact ⟨payload, hOpens.opened, hReturns⟩
  exact {
    joins := hJoin
    refused := fun x hx hRefused => absurd hRefused (hTaken x hx)
    fault_iff := hFault
    fault_eq := fun x hx => by
      obtain ⟨e, hx⟩ := hHandover.fault_eq x hx
      exact ⟨_, hx, rfl, rfl⟩
    data_iff := hData
    data_eq := hHandover.data_eq
    data_of_fault := fun hSome => by
      obtain ⟨l', payload, e, hOpens, hError⟩ := hFault.mp hSome
      exact hData.mpr ⟨l', payload, hOpens, by simp [hError]⟩ }

theorem uplink_tells {server : Server} {o : Option (Except ServiceError Unit)}
    (hEnds : (uplink server.keks server.decoder r).Ends es o) (hPlays : World.Plays k w es w') :
    ∃ join fault data, UplinkTells k server r w w' join fault data ∧
      es.filterMap Exchange.effect? =
        (join.toList ++ fault.toList ++ data.toList).flatMap Dispatch.effects := by
  rw [uplink_eq] at hEnds
  rcases ends_bind_cases hEnds with ⟨l, es₁, es₂, rfl, hFound, hHandover⟩ | ⟨o', hApproach, hNone⟩
  · obtain ⟨v, hApproach, hRest⟩ := World.plays_append_iff.mp hPlays
    obtain ⟨join, hTold, hRefused⟩ := approach_told hFound
    obtain ⟨fault, data, hTells, hRows, hEffects⟩ := handover_tells hHandover
    have hLocates : Locates k server.keks r w l v :=
      locates_iff.mpr (World.run_eq_iff.mpr ⟨es₁, hFound, hApproach⟩)
    have hTaken : ∀ x ∈ join, x.taken ≠ false := by
      intro x hx hFalse
      obtain ⟨e, hError⟩ := hRefused x hx hFalse
      cases hError
    -- the handover adds no activation to that of the approach
    have hLater : w'.store.activations = v.store.activations := by
      rw [hRest.activations, hRows, List.append_nil]
    have hJoin : TellsJoin w.store w'.store join := by
      have hJoin := hTold.tellsJoin hApproach
      unfold TellsJoin at hJoin ⊢
      rw [hLater]
      exact hJoin
    refine ⟨join, fault, data, uplinkTells_of_located hJoin hTaken hLocates hTells, ?_⟩
    rw [List.filterMap_append, hTold.effects, hEffects, List.flatMap_append, List.flatMap_append,
      List.append_assoc]
  · obtain ⟨join, hTold, -⟩ := approach_told hApproach
    have hLost : ¬∃ l v, Locates k server.keks r w l v := by
      rintro ⟨l, v, hLocates⟩
      have hRun := World.run_eq_iff.mpr ⟨es, hApproach, hPlays⟩
      rw [locates_iff.mp hLocates] at hRun
      exact hNone l (Prod.mk.inj hRun).1.symm
    refine ⟨join, none, none, uplinkTells_of_not_located (hTold.tellsJoin hPlays) hLost, ?_⟩
    simpa using hTold.effects

/-! ## Reports -/

/-- Whether these are the dispatches of a report: one of its notification if it comes by its device and
its application, and else none. -/
def ReportTells (k : Conditions σ) (w : World σ) (device : Service Device)
    (tell : Device → Application → Notification) (ds : List Dispatch) : Prop :=
  (∃ d a logged taken, (w.run k (withApplication device).program).1 = some (.ok (d, a)) ∧
    ds = [⟨tell d a, logged, taken⟩]) ∨
  ((¬∃ found, (w.run k (withApplication device).program).1 = some (.ok found)) ∧ ds = [])

theorem getDevice_isLookup (devEui : Eui64) : (getDevice devEui).CallsOnly (isLookup · = true) := by
  rw [getDevice_eq]
  exact callsOnly_ask rfl

theorem updateDevice_isLookup (devEui : Eui64) (mutation : DeviceMutation) :
    (updateDevice devEui mutation).CallsOnly (isLookup · = true) := by
  rw [updateDevice_eq]
  exact callsOnly_ask rfl

theorem report_tells {device : Service Device} {tell : Device → Application → Notification}
    {settle : Except ServiceError Unit → Except ServiceError Unit}
    {o : Option (Except ServiceError Unit)} (hDevice : device.CallsOnly (isLookup · = true))
    (hEnds : (report device tell settle).Ends es o) (hPlays : World.Plays k w es w') :
    ∃ ds, ReportTells k w device tell ds ∧
      es.filterMap Exchange.effect? = ds.flatMap Dispatch.effects := by
  -- looking up has no effect
  have hQuiet : ∀ {found : List Exchange} {o' : Option (Except ServiceError (Device × Application))},
      (withApplication device).Ends found o' → found.filterMap Exchange.effect? = [] := by
    intro found o' hFound
    have hCalls := Program.CallsOnly.ends (withApplication_callsOnly hDevice fun _ => rfl) hFound
    exact List.filterMap_eq_nil_iff.mpr fun e he => effect?_of_isLookup (hCalls e he)
  rcases report_cases hEnds with ⟨d, a, found, logged, sent, hFound, rfl, -⟩ | ⟨o', hFound, hNone⟩
  · obtain ⟨v, hStart, -⟩ := World.plays_append_iff.mp hPlays
    have hRun := World.run_eq_iff.mpr ⟨found, hFound, hStart⟩
    refine ⟨[⟨tell d a, logged.isOk, sent.isOk⟩], Or.inl ⟨d, a, _, _, by rw [hRun], rfl⟩, ?_⟩
    rw [List.filterMap_append, hQuiet hFound, List.nil_append, Dispatch.effects_of_calls,
      List.flatMap_singleton]
  · -- nothing was found, so that nothing is told
    have hRun := World.run_eq_iff.mpr ⟨es, hFound, hPlays⟩
    refine ⟨[], Or.inr ⟨?_, rfl⟩, hQuiet hFound⟩
    rintro ⟨found, h⟩
    rw [hRun] at h
    exact hNone found h

end Service

/-! ## The law -/

namespace Operation

open Service

variable {σ : Type}

/-- Whether these are the dispatches that an operation is to make which leads from a world to another. -/
def Tells (k : Conditions σ) (server : Server) (w w' : World σ) :
    {α : Type} → Operation α → List Dispatch → Prop
  | _, .handle (.uplink r), ds => ∃ join fault data, ds = join.toList ++ fault.toList ++ data.toList ∧
    UplinkTells k server r w w' join fault data
  | _, .handle (.ack r), ds => ReportTells k w (getDevice r.devEui) (acknowledged r) ds
  | _, .handle (.error r), ds => ReportTells k w (getDevice r.devEui) (failed r) ds
  | _, .handle (.status r), ds =>
    ReportTells k w (updateDevice r.devEui (.setStatus r.battery r.margin)) (measured r) ds
  | _, .handle (.location r), ds => (r.location = none ∧ ds = []) ∨
    ∃ l, r.location = some l ∧
      ReportTells k w (updateDevice r.devEui (.setLocation l)) (positioned l) ds
  | _, .activate .., ds => ∃ join : Option Dispatch, ds = join.toList ∧
    TellsJoin w.store w'.store join

/-- What an operation adds to the effects are dispatches, and these are the ones that it is to make. -/
theorem dispatches_in_pairs {α : Type} (k : Conditions σ) (server : Server) (op : Operation α) (w : World σ) :
    ∃ ds, (w.run k (op.service server).program).2.effects = w.effects ++ ds.flatMap Dispatch.effects ∧
      op.Tells k server w (w.run k (op.service server).program).2 ds := by
  obtain ⟨es, hEnds, hPlays⟩ := World.exists_plays k (op.service server).program w
  rw [hPlays.effects]
  cases op with
  | activate d a context =>
    obtain ⟨join, hTold, -⟩ := activate_told hEnds
    exact ⟨join.toList, by rw [hTold.effects], join, rfl, hTold.tellsJoin hPlays⟩
  | handle request =>
    cases request with
    | uplink r =>
      obtain ⟨join, fault, data, hTells, hEffects⟩ := uplink_tells hEnds hPlays
      exact ⟨_, by rw [hEffects], join, fault, data, rfl, hTells⟩
    -- the other four are reports, which differ in how the device is found and in what is told of it
    | ack r =>
      have hEnds : (Service.ack r).Ends es _ := hEnds
      rw [ack_eq] at hEnds
      obtain ⟨ds, hTells, hEffects⟩ := report_tells (getDevice_isLookup r.devEui) hEnds hPlays
      exact ⟨ds, by rw [hEffects], hTells⟩
    | error r =>
      have hEnds : (Service.error r).Ends es _ := hEnds
      rw [error_eq] at hEnds
      obtain ⟨ds, hTells, hEffects⟩ := report_tells (getDevice_isLookup r.devEui) hEnds hPlays
      exact ⟨ds, by rw [hEffects], hTells⟩
    | status r =>
      have hEnds : (Service.status r).Ends es _ := hEnds
      rw [status_eq] at hEnds
      obtain ⟨ds, hTells, hEffects⟩ := report_tells (updateDevice_isLookup r.devEui _) hEnds hPlays
      exact ⟨ds, by rw [hEffects], hTells⟩
    | location r =>
      have hEnds : (Service.location r).Ends es _ := hEnds
      cases hLocation : r.location with
      | none =>
        rw [location_eq_throw hLocation] at hEnds
        obtain ⟨rfl, -⟩ := ends_throw_iff.mp hEnds
        exact ⟨[], rfl, Or.inl ⟨hLocation, rfl⟩⟩
      | some l =>
        rw [location_eq hLocation] at hEnds
        obtain ⟨ds, hTells, hEffects⟩ := report_tells (updateDevice_isLookup r.devEui _) hEnds hPlays
        exact ⟨ds, by rw [hEffects], Or.inr ⟨l, hLocation, hTells⟩⟩

end Operation

end Lorawan
