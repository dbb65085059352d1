import Lorawan.Proofs.Service.Delivery
import Lorawan.Proofs.Service.TwoRuns

/-!
# Tolerated failures

A failing event log, a failing look-up of gateways, and an integration that does not take an error or an
acknowledgement leave no trace in what else a service does: compared with a run in which none of these
fails, the result, the store and the calls to the outside are the same, in the same order and with the
same contents.  What differs is whether those calls have succeeded, and the names of the gateways, which
are lost if their look-up fails (`Operation.tolerates`).

Every operation is its own twin (`Operation.twins`), which is put together from the seams as the
operation is.
-/

namespace Lorawan

namespace Service

variable {α β γ δ : Type}

/-- Whether two results are alike: values that are as they should be, or the same error. -/
inductive ResultsAlike (Φ : α → β → Prop) : Except ServiceError α → Except ServiceError β → Prop
  | ok {a : α} {b : β} (h : Φ a b) : ResultsAlike Φ (.ok a) (.ok b)
  | error (e : ServiceError) : ResultsAlike Φ (.error e) (.error e)

theorem ResultsAlike.eq {o o' : Option (Except ServiceError α)}
    (h : Option.Rel (ResultsAlike fun a b => b = a) o o') : o' = o := by
  cases h with
  | none => rfl
  | some h =>
    cases h with
    | ok h => rw [h]
    | error e => rfl

/-- Whether two services make the same calls and end alike, as far as failures are tolerated. -/
def Twins (Φ : Names → α → β → Prop) (names : Names) (s : Service α) (s' : Service β) : Prop :=
  s.program.Twins (fun names => ResultsAlike (Φ names)) names s'.program

/-- Whether nothing was learned of the names of gateways, and the values are the same. -/
def Same (names : Names) : Names → α → α → Prop := fun names' a b => names' = names ∧ b = a

theorem Twins.mono {Φ Ψ : Names → α → β → Prop} {names : Names} {s : Service α} {s' : Service β}
    (h : s.Twins Φ names s') (hΦ : ∀ names a b, Φ names a b → Ψ names a b) :
    s.Twins Ψ names s' := by
  refine Program.Twins.mono h fun names r r' hr => ?_
  cases hr with
  | ok h => exact .ok (hΦ _ _ _ h)
  | error e => exact .error e

theorem Twins.bind {Φ : Names → α → β → Prop} {Ψ : Names → γ → δ → Prop} {names : Names}
    {s : Service α} {s' : Service β} {f : α → Service γ} {f' : β → Service δ}
    (h : s.Twins Φ names s') (hf : ∀ names a b, Φ names a b → (f a).Twins Ψ names (f' b)) :
    (s >>= f).Twins Ψ names (s' >>= f') := by
  unfold Twins
  rw [program_bind, program_bind]
  refine Program.Twins.bind h fun names r r' hr => ?_
  cases hr with
  | ok h => exact hf names _ _ h
  | error e => exact .done (.error e)

/-- What follows a part that is the same in both runs is compared on one value. -/
theorem Twins.bind_same {Ψ : Names → γ → δ → Prop} {names : Names} {s s' : Service α}
    {f : α → Service γ} {f' : α → Service δ} (h : s.Twins (Same names) names s')
    (hf : ∀ a, (f a).Twins Ψ names (f' a)) : (s >>= f).Twins Ψ names (s' >>= f') := by
  refine h.bind fun names' a b hSame => ?_
  obtain ⟨rfl, rfl⟩ := hSame
  exact hf b

theorem twins_pure {names : Names} (a : α) : (pure a : Service α).Twins (Same names) names (pure a) :=
  .done (.ok ⟨rfl, rfl⟩)

theorem twins_throw {names : Names} (e : ServiceError) :
    (throw e : Service α).Twins (Same names) names (throw e) :=
  .done (.error e)

theorem twins_ofAttempt {names : Names} (x : Attempt ServiceError α) :
    (ofAttempt x).Twins (Same names) names (ofAttempt x) := by
  rcases x with (e | _) | a
  · exact twins_throw e
  · exact .abort
  · exact twins_pure a

theorem Twins.discard {names : Names} {s : Service α} (h : s.Twins (Same names) names s) :
    (Functor.discard s : Service Unit).Twins (Same names) names (Functor.discard s) := by
  rw [discard_eq]
  exact h.bind_same fun _ => twins_pure ()

/-! ## The seams -/

/-- A call of storage is answered alike. -/
theorem twins_storage {names : Names} {c : Call} (outcome : c.Answer → Except ServiceError α)
    (hStorage : c.isStorage = true) : (ask c outcome).Twins (Same names) names (ask c outcome) := by
  refine .storage hStorage fun answer => .done ?_
  cases outcome answer with
  | error e => exact .error e
  | ok a => exact .ok ⟨rfl, rfl⟩

theorem now_twins {names : Names} : now.Twins (Same names) names now := by
  rw [now_eq]
  exact twins_storage _ rfl

theorem getDevice_twins {names : Names} (devEui : Eui64) :
    (getDevice devEui).Twins (Same names) names (getDevice devEui) := by
  rw [getDevice_eq]
  exact twins_storage _ rfl

theorem updateDevice_twins {names : Names} (devEui : Eui64) (mutation : DeviceMutation) :
    (updateDevice devEui mutation).Twins (Same names) names (updateDevice devEui mutation) := by
  rw [updateDevice_eq]
  exact twins_storage _ rfl

theorem getApplication_twins {names : Names} (id : Int64) :
    (getApplication id).Twins (Same names) names (getApplication id) := by
  rw [getApplication_eq]
  exact twins_storage _ rfl

theorem createActivation_twins {names : Names} (devEui : Eui64) (devAddr : DevAddr)
    (appSKey : Aes128Key) :
    (createActivation devEui devAddr appSKey).Twins (Same names) names
      (createActivation devEui devAddr appSKey) := by
  rw [createActivation_eq]
  exact twins_storage _ rfl

theorem lastActivation_twins {names : Names} (devEui : Eui64) :
    (lastActivation devEui).Twins (Same names) names (lastActivation devEui) := by
  rw [lastActivation_eq]
  exact twins_storage _ rfl

/-- The gateways that the second run knows of: those of the first, or none. -/
def GatewaysAlike (names : Names) (gateways gateways' : Table Eui64 Gateway) : Prop :=
  (names = .known ∧ gateways' = gateways) ∨ (names = .lost ∧ gateways' = .empty)

theorem getGateways_twins (ids : List Eui64) :
    (getGateways ids).Twins GatewaysAlike .unasked (getGateways ids) := by
  rw [getGateways_eq]
  refine .gateways (fun gateways => .done (.ok ?_)) (fun gateways e => .done (.ok ?_))
  · exact Or.inl ⟨rfl, rfl⟩
  · exact Or.inr ⟨rfl, rfl⟩

theorem record_twins {names : Names} {n n' : Notification} (h : names.Tells n n')
    (hOrigin : n'.origin = n.origin) : (record n).Twins (Same names) names (record n') := by
  rw [record_eq, record_eq, hOrigin]
  exact .log h fun _ => .done (.ok ⟨rfl, rfl⟩)

theorem offer_twins {names : Names} {n : Notification} (h : (Call.send n).isTolerated = true) :
    (offer n).Twins (Same names) names (offer n) := by
  rw [offer_eq]
  exact .offer h fun _ => .done (.ok ⟨rfl, rfl⟩)

theorem deliver_twins {names : Names} {n n' : Notification} (h : names.Tells n n')
    (hStrict : (Call.send n).isTolerated = false) :
    (deliver n).Twins (Same names) names (deliver n') := by
  rw [deliver_eq, deliver_eq]
  refine .deliver hStrict h fun answer => .done ?_
  rcases answer with e | ⟨⟨⟩⟩
  · exact .error (dispatchError e)
  · exact .ok ⟨rfl, rfl⟩

/-! ## The operations -/

theorem ack_twins (r : AckRequest) : (ack r).Twins (Same .unasked) .unasked (ack r) := by
  refine (getDevice_twins r.devEui).bind_same fun d => ?_
  refine (getApplication_twins d.applicationId).bind_same fun a => ?_
  exact (record_twins (Names.tells_unasked rfl) rfl).bind_same fun _ => offer_twins rfl

theorem error_twins (r : ErrorRequest) : (error r).Twins (Same .unasked) .unasked (error r) := by
  refine (getDevice_twins r.devEui).bind_same fun d => ?_
  refine (getApplication_twins d.applicationId).bind_same fun a => ?_
  exact (record_twins (Names.tells_unasked rfl) rfl).bind_same fun _ => offer_twins rfl

theorem status_twins (r : StatusRequest) : (status r).Twins (Same .unasked) .unasked (status r) := by
  refine (updateDevice_twins r.devEui _).bind_same fun d => ?_
  refine (getApplication_twins d.applicationId).bind_same fun a => ?_
  refine (record_twins (Names.tells_unasked rfl) rfl).bind_same fun _ => ?_
  exact deliver_twins (Names.tells_unasked rfl) rfl

theorem location_twins (r : LocationRequest) :
    (location r).Twins (Same .unasked) .unasked (location r) := by
  unfold location
  cases r.location with
  | none => exact twins_throw _
  | some l =>
    refine (updateDevice_twins r.devEui _).bind_same fun d => ?_
    refine (getApplication_twins d.applicationId).bind_same fun a => ?_
    refine (record_twins (Names.tells_unasked rfl) rfl).bind_same fun _ => ?_
    exact deliver_twins (Names.tells_unasked rfl) rfl

theorem activate_twins (keks : KekSet) (d : Device) (a : Application) (context : ActivationContext) :
    (activate keks d a context).Twins (Same .unasked) .unasked (activate keks d a context) := by
  unfold activate
  cases context.appSKey with
  | none => exact twins_throw _
  | some envelope =>
    refine (twins_ofAttempt _).bind_same fun appSKey => ?_
    refine (createActivation_twins _ _ _).bind_same fun activation => ?_
    refine (record_twins (Names.tells_unasked rfl) rfl).bind_same fun _ => ?_
    exact (deliver_twins (Names.tells_unasked rfl) rfl).bind_same fun _ => twins_pure activation

theorem approach_twins (keks : KekSet) (r : UplinkRequest) :
    (approach keks r).Twins (Same .unasked) .unasked (approach keks r) := by
  unfold approach
  cases r.txInfo with
  | none => exact twins_throw _
  | some tx =>
    refine now_twins.bind_same fun time => ?_
    refine (updateDevice_twins r.devEui _).bind_same fun d => ?_
    refine (getApplication_twins d.applicationId).bind_same fun a => ?_
    have hJoin : (joinLeg keks d a r.context).Twins (Same .unasked) .unasked
        (joinLeg keks d a r.context) := by
      cases r.context with
      | none => exact twins_pure ()
      | some context => exact (activate_twins keks d a context).discard
    refine hJoin.bind_same fun _ => ?_
    exact (lastActivation_twins d.devEui).bind_same fun _ => twins_pure _

theorem decodePayload_twins {names : Names} (decoder : UplinkDecoder) (d : Device) (a : Application)
    (fCnt : UInt32) (fPort : UInt8) (data : List UInt8)
    (hTells : ∀ e, names.Tells (codecFault d a fCnt e) (codecFault d a fCnt e)) :
    (decodePayload decoder d a fCnt fPort data).Twins (Same names) names
      (decodePayload decoder d a fCnt fPort data) := by
  unfold decodePayload
  rcases decoder a.codec fPort data with (e | _) | object
  · -- the fault is told of by two tolerated calls, and there is no object in either run
    refine (record_twins (hTells e) rfl).bind_same fun _ => ?_
    exact (offer_twins rfl).bind_same fun _ => twins_pure none
  · exact .abort
  · exact twins_pure object

/-- Without its gateways an uplink is told of without their names. -/
theorem dataUp_tells {names : Names} {gateways gateways' : Table Eui64 Gateway}
    (h : GatewaysAlike names gateways gateways') (r : UplinkRequest) (l : Located)
    (data : List UInt8) (object : Option Json) :
    names.Tells (.dataUp (dataUp r l gateways data object))
      (.dataUp (dataUp r l gateways' data object)) := by
  rcases h with ⟨rfl, rfl⟩ | ⟨rfl, rfl⟩
  · exact rfl
  · simp [Names.Tells, Notification.withoutNames, dataUp, rxInfo]

theorem handover_twins (decoder : UplinkDecoder) (r : UplinkRequest) (l : Located) :
    (handover decoder r l).Twins (fun _ a b => b = a) .unasked (handover decoder r l) := by
  refine (twins_ofAttempt _).bind_same fun data => ?_
  have hDecode := decodePayload_twins decoder l.device l.application r.fCnt r.fPort data
    fun _ => Names.tells_unasked rfl
  refine hDecode.bind_same fun object => ?_
  -- from here on the two runs may differ in the names of gateways
  refine (getGateways_twins _).bind fun names gateways gateways' hAlike => ?_
  have hTells := dataUp_tells hAlike r l data object
  refine (record_twins hTells rfl).bind_same fun _ => ?_
  exact (deliver_twins hTells rfl).mono fun _ _ _ hSame => hSame.2

theorem uplink_twins (keks : KekSet) (decoder : UplinkDecoder) (r : UplinkRequest) :
    (uplink keks decoder r).Twins (fun _ a b => b = a) .unasked (uplink keks decoder r) := by
  rw [uplink_eq]
  exact (approach_twins keks r).bind_same fun l => handover_twins decoder r l

end Service

/-! ## All operations together -/

/-- What can be asked of the services, with what it returns. -/
inductive Operation : Type → Type
  | handle (r : Request) : Operation Unit
  | activate (d : Device) (a : Application) (context : ActivationContext) : Operation Activation

namespace Operation

variable {α : Type}

/-- The service that carries an operation out. -/
def service (server : Server) : Operation α → Service α
  | handle r => server.handle r
  | activate d a context => Service.activate server.keks d a context

theorem twins (server : Server) (op : Operation α) :
    (op.service server).Twins (fun _ a b => b = a) .unasked (op.service server) := by
  have hSame : ∀ {β : Type} {s : Service β}, s.Twins (Service.Same .unasked) .unasked s →
      s.Twins (fun _ a b => b = a) .unasked s := fun h => h.mono fun _ _ _ hSame => hSame.2
  cases op with
  | handle r =>
    cases r with
    | uplink r => exact Service.uplink_twins server.keks server.decoder r
    | ack r => exact hSame (Service.ack_twins r)
    | error r => exact hSame (Service.error_twins r)
    | status r => exact hSame (Service.status_twins r)
    | location r => exact hSame (Service.location_twins r)
  | activate d a context => exact hSame (Service.activate_twins server.keks d a context)

/-- Tolerated failures influence nothing else: the two runs have the same result and leave the same store,
and the calls to the outside agree one by one. -/
theorem tolerates {σ τ : Type} {R : σ → τ → Prop} {k : Conditions σ} {k' : Conditions τ}
    (hk : Conditions.Twin R k k') {w : World σ} {w' : World τ} (hw : w.Twin R w') (server : Server)
    (op : Operation α) :
    (w'.run k' (op.service server).program).1 = (w.run k (op.service server).program).1 ∧
      (w'.run k' (op.service server).program).2.store =
        (w.run k (op.service server).program).2.store ∧
      ∃ new new',
        (w.run k (op.service server).program).2.effects = w.effects ++ new ∧
        (w'.run k' (op.service server).program).2.effects = w'.effects ++ new' ∧
        List.Forall₂ (Effect.Agrees (w'.LosesNames k' (op.service server).program)) new new' := by
  obtain ⟨names, hAlike, hLost⟩ := (op.twins server).run hk hw
  have hLost : (names = .lost) = w'.LosesNames k' (op.service server).program := by
    simpa using hLost
  rw [← hLost]
  exact ⟨Service.ResultsAlike.eq hAlike.result, hAlike.twin.store, hAlike.effects⟩

end Operation

/-! ## Worlds with faults -/

/-- The kinds of calls that are tolerated when they fail. -/
def Seam.isTolerated : Seam → Bool
  | .log | .getGateways | .send .ack | .send .error => true
  | _ => false

theorem Call.isTolerated_eq {c : Call} {seam : Seam} (h : c.seam? = some seam) :
    c.isTolerated = seam.isTolerated := by
  cases c with
  | now => cases h
  | send n =>
    cases h
    cases n <;> rfl
  | _ =>
    cases h
    rfl

theorem Call.Resembles.seam?_eq {c c' : Call} (h : c.Resembles c') : c'.seam? = c.seam? := by
  rcases h with rfl | ⟨n, rfl, rfl⟩ | ⟨devEui, n, rfl, rfl⟩
  · rfl
  · cases n <;> rfl
  · rfl

namespace Fault

variable {κ ε : Type} [DecidableEq κ]

theorem place_of_strikes {f : Fault κ ε} {place : κ} (h : f.strikes place = true) :
    f.place = place := by
  simp only [strikes, Bool.and_eq_true, decide_eq_true_eq] at h
  exact h.1

/-- At a place that is kept the faults strike as if there were no others. -/
theorem strike_filter_of_kept {place : κ} {P : κ → Bool} (h : P place = true)
    (fs : List (Fault κ ε)) :
    strike place (fs.filter fun f => P f.place) =
      ((strike place fs).1, (strike place fs).2.filter fun f => P f.place) := by
  induction fs with
  | nil => rfl
  | cons f fs ih =>
    by_cases hStrikes : f.strikes place = true
    · simp [strike, hStrikes, place_of_strikes hStrikes, h]
    · by_cases hKept : P f.place = true <;> simp [strike, hStrikes, hKept, ih]

/-- At a place that is not kept no kept fault strikes. -/
theorem strike_filter_of_dropped {place : κ} {P : κ → Bool} (h : P place = false)
    (fs : List (Fault κ ε)) :
    strike place (fs.filter fun f => P f.place) = (none, fs.filter fun f => P f.place) := by
  induction fs with
  | nil => rfl
  | cons f fs ih =>
    by_cases hKept : P f.place = true
    · have hElsewhere : f.strikes place = false := by
        rw [Bool.eq_false_iff]
        intro hStrikes
        rw [place_of_strikes hStrikes, h] at hKept
        cases hKept
      simp [strike, hElsewhere, hKept, ih]
    · simp [hKept, ih]

/-- A fault that strikes at a place that is not kept leaves the kept ones as they were. -/
theorem filter_strike_of_dropped {place : κ} {P : κ → Bool} (h : P place = false)
    (fs : List (Fault κ ε)) :
    ((strike place fs).2.filter fun f => P f.place) = fs.filter fun f => P f.place := by
  induction fs with
  | nil => rfl
  | cons f fs ih =>
    by_cases hStrikes : f.strikes place = true
    · simp [strike, hStrikes, place_of_strikes hStrikes, h]
    · by_cases hKept : P f.place = true <;> simp [strike, hStrikes, hKept, ih]

end Fault

namespace Faults

/-- The faults at calls that are not tolerated. -/
def severe (fs : Faults) : List (Fault Seam ServiceError) :=
  fs.calls.filter fun f => !f.place.isTolerated

/-- Where all goes to receivers, no call goes through a publisher. -/
theorem failure_of_seam {c : Call} {seam : Seam} (h : c.seam? = some seam) (fs : Faults) :
    failure ⟨.receiver, .receiver⟩ c fs =
      ((Fault.strike seam fs.calls).1, { fs with calls := (Fault.strike seam fs.calls).2 }) := by
  cases c <;> cases h <;> rfl

end Faults

/-- Worlds that have the same faults but at tolerated calls, and in the first of which these never fail,
stay so. -/
theorem Conditions.ofFaults_twin (time : Time.Instant) :
    Conditions.Twin (fun fs fs' : Faults => fs.calls = fs'.severe)
      (.ofFaults ⟨.receiver, .receiver⟩ time) (.ofFaults ⟨.receiver, .receiver⟩ time) where
  clock h := ⟨rfl, h⟩
  strict := by
    intro fs fs' c c' h hStrict hResembles
    cases hSeam : c.seam? with
    | none =>
      -- only the clock has no seam, and it never fails
      have hSeam' := hResembles.seam?_eq.trans hSeam
      cases c <;> cases hSeam
      cases c' <;> cases hSeam'
      exact ⟨rfl, h⟩
    | some seam =>
      -- the faults at this seam are severe, so that both runs have them
      have hKept : (!seam.isTolerated) = true := by
        rw [← Call.isTolerated_eq hSeam, hStrict]
        rfl
      have hStrike := Fault.strike_filter_of_kept (P := fun s : Seam => !s.isTolerated) hKept fs'.calls
      simp only [ofFaults, Faults.failure_of_seam hSeam,
        Faults.failure_of_seam (hResembles.seam?_eq.trans hSeam), h, Faults.severe, hStrike, and_self]
  tolerated := by
    intro fs fs' c c' h hTolerated hResembles
    cases hSeam : c.seam? with
    | none =>
      cases c <;> cases hSeam
      cases hTolerated
    | some seam =>
      -- the first run has no faults at this seam, and those of the second are no matter to it
      have hDropped : (!seam.isTolerated) = false := by
        rw [← Call.isTolerated_eq hSeam, hTolerated]
        rfl
      have hNone := Fault.strike_filter_of_dropped (P := fun s : Seam => !s.isTolerated) hDropped
        fs'.calls
      have hSame := Fault.filter_strike_of_dropped (P := fun s : Seam => !s.isTolerated) hDropped
        fs'.calls
      simp only [ofFaults, Faults.failure_of_seam hSeam,
        Faults.failure_of_seam (hResembles.seam?_eq.trans hSeam), h, Faults.severe, hNone, hSame,
        and_self]

namespace Operation

namespace Sample

open Service.Sample

/-- A server whose decoder makes sense of no payload. -/
def server : Server := ⟨.empty, fun _ _ _ => .error (.error (.codec "no sense"))⟩

/-- A world in which neither the log nor the gateways can be reached, and one error is not taken. -/
def ailingWorld : World Faults :=
  world [session 0]
    ⟨[⟨.log, .eventLog "down", none⟩, ⟨.getGateways, .validation "down", none⟩,
      ⟨.send .error, .integrationDispatch "down", some 1⟩], []⟩

/-- The run of an uplink. -/
def run (w : World Faults) : Option (Except ServiceError Unit) × World Faults :=
  w.run conditions ((handle (.uplink (request none))).service server).program

end Sample

theorem tolerates_sample :
    (Sample.run Sample.ailingWorld).1 = some (.ok ()) ∧
      (Sample.run Sample.ailingWorld).2.effects.length = 4 := by
  have hTwin : (Service.Sample.world [Service.Sample.session 0] ⟨[], []⟩).Twin
      (fun fs fs' : Faults => fs.calls = fs'.severe) Sample.ailingWorld := ⟨rfl, rfl⟩
  -- the run is compared with the one that has no faults at all
  obtain ⟨hResult, -, new, new', hNew, hNew', hAgrees⟩ := tolerates
    (Conditions.ofFaults_twin ⟨1000, 0⟩) hTwin Sample.server
    (handle (.uplink (Service.Sample.request none)))
  have hNew : new = (Sample.run (Service.Sample.world [Service.Sample.session 0] ⟨[], []⟩)).2.effects :=
    hNew.symm
  have hNew' : (Sample.run Sample.ailingWorld).2.effects = new' := hNew'
  refine ⟨hResult, ?_⟩
  rw [hNew', ← hAgrees.length_eq, hNew]
  rfl

end Operation

end Lorawan
