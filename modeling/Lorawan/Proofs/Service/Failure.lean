import Lorawan.Proofs.Service.Run
import Lorawan.Proofs.Service.Uplink
import Lorawan.Service.Server

/-!
# What becomes of failed calls

A call that fails is either *tolerated*, and the service goes on as if nothing had happened, or it ends
the service.  Whether another attempt may mend the error in which a service ends is decided by the call
that has failed: it may if storage did not answer or the integration did not take a notification that it
must take.

* `Call.isTolerated` lists the tolerated calls, `Exchange.IsTransient` the failures that pass.
* `Service.Propagates` says that a service is never cut short and ends in an error that may be mended
  exactly if one of its calls has failed in a way that passes.  It goes through `>>=`
  (`Service.Propagates.bind`), and every operation has it, an uplink on either leg
  (`Service.approach_propagates`, `Service.handover_propagates`), unless its decoder is cut short.
-/

namespace Lorawan

namespace Call

/-- Whether a service goes on when this call fails. -/
def isTolerated : Call → Bool
  | .log .. | .getGateways _ | .send (.ack _) | .send (.error _) => true
  | _ => false

/-- Whether a call needs storage or the clock, and is not tolerated when it fails. -/
def isStorage : Call → Bool
  | .getGateways _ | .log .. | .send _ => false
  | _ => true

theorem isTolerated_of_isStorage {c : Call} (h : c.isStorage = true) : c.isTolerated = false := by
  cases c with
  | getGateways ids => cases h
  | log devEui entry => cases h
  | send n => cases h
  | _ => rfl

theorem ne_send_of_isStorage {c : Call} (h : c.isStorage = true) (n : Notification) :
    c ≠ .send n := by
  rintro rfl
  cases h

end Call

namespace Exchange

/-- The error of a call that has failed. -/
def failure? : Exchange → Option ServiceError
  | ⟨.getDevice _, .error e⟩ | ⟨.updateDevice .., .error e⟩ | ⟨.getApplication _, .error e⟩
  | ⟨.createActivation .., .error e⟩ | ⟨.lastActivation _, .error e⟩ | ⟨.getGateways _, .error e⟩
  | ⟨.log .., .error e⟩ | ⟨.send _, .error e⟩ => some e
  | _ => none

/-- The error of a result. -/
def errorOf? {α : Type} : Except ServiceError α → Option ServiceError
  | .error e => some e
  | .ok _ => none

/-- Whether a call has failed that is not tolerated, in a way that passes: storage or a dispatch on its
behalf did not answer, or the integration did not take a notification, for whatever reason. -/
def IsTransient (e : Exchange) : Prop :=
  e.call.isTolerated = false ∧ ∃ err, e.failure? = some err ∧
    ((∃ n, e.call = .send n) ∨ (∃ cause, err = .repository cause) ∨
      ∃ detail, err = .integrationDispatch detail)

end Exchange

/-- Whether a run of a program in a world comes to this exchange. -/
def World.Meets {σ α : Type} (k : Conditions σ) (w : World σ) (p : Program α) (e : Exchange) : Prop :=
  ∃ es, p.Ends es (w.run k p).1 ∧ World.Plays k w es (w.run k p).2 ∧ e ∈ es

/-- A program has one conversation with a world. -/
theorem World.Plays.unique {σ α : Type} {k : Conditions σ} {w v v' : World σ} {p : Program α}
    {es es' : List Exchange} {o o' : Option α} (hEnds : p.Ends es o) (hPlays : World.Plays k w es v)
    (hEnds' : p.Ends es' o') (hPlays' : World.Plays k w es' v') : es' = es := by
  induction p generalizing w es es' with
  | done a => rw [hEnds.1, hEnds'.1]
  | abort => rw [hEnds.1, hEnds'.1]
  | call c next ih =>
    obtain ⟨answer, rest, rfl, hRest⟩ := hEnds
    obtain ⟨answer', rest', rfl, hRest'⟩ := hEnds'
    -- both first answers are that of the world
    obtain ⟨hAnswer, hPlays⟩ := hPlays
    obtain ⟨hAnswer', hPlays'⟩ := hPlays'
    obtain rfl : answer' = answer := hAnswer'.trans hAnswer.symm
    rw [ih answer' hRest hPlays hRest' hPlays']

/-- What a run meets is what its conversation holds. -/
theorem World.meets_iff {σ α : Type} {k : Conditions σ} {w v : World σ} {p : Program α}
    {es : List Exchange} {o : Option α} (hEnds : p.Ends es o) (hPlays : World.Plays k w es v)
    {e : Exchange} : w.Meets k p e ↔ e ∈ es := by
  constructor
  · rintro ⟨es', hEnds', hPlays', he⟩
    rwa [← World.Plays.unique hEnds hPlays hEnds' hPlays']
  · intro he
    have hRun := World.run_eq_iff.mpr ⟨es, hEnds, hPlays⟩
    refine ⟨es, ?_, ?_, he⟩
    · rw [hRun]
      exact hEnds
    · rw [hRun]
      exact hPlays

theorem ServiceError.isRetryable_iff {e : ServiceError} :
    e.isRetryable = true ↔
      (∃ cause, e = .repository cause) ∨ ∃ detail, e = .integrationDispatch detail := by
  cases e <;> simp [isRetryable]

namespace Service

variable {α β : Type}

/-- Whether a service has ended in an error that another attempt may mend. -/
def EndsRetryable (result : Except ServiceError α) : Prop :=
  ∃ e, result = .error e ∧ e.isRetryable = true

/-- Whether a service always returns, and does so with an error that may be mended exactly if one of its
calls has failed in a way that passes. -/
def Propagates (s : Service α) : Prop :=
  ∀ es o, s.Ends es o → ∃ result, o = some result ∧
    (EndsRetryable result ↔ ∃ e ∈ es, e.IsTransient)

/-! ## Composition -/

theorem not_endsRetryable_ok {a : α} : ¬EndsRetryable (.ok a) := by
  rintro ⟨e, h, -⟩
  cases h

theorem endsRetryable_error_iff {e : ServiceError} :
    EndsRetryable (.error e : Except ServiceError α) ↔ e.isRetryable = true := by
  constructor
  · rintro ⟨_, h, hRetryable⟩
    cases h
    exact hRetryable
  · intro h
    exact ⟨e, rfl, h⟩

/-- A part that has given a value has met no failure that passes. -/
theorem Propagates.quiet {s : Service α} (hs : s.Propagates) {es : List Exchange} {a : α}
    (h : s.Gives es a) : ∀ e ∈ es, ¬e.IsTransient := by
  obtain ⟨result, hResult, hIff⟩ := hs es _ h
  cases hResult
  intro e he hTransient
  exact not_endsRetryable_ok (hIff.mpr ⟨e, he, hTransient⟩)

/-- A conversation of a service made of two parts, of which the second part propagates wherever the
conversation comes to it. -/
theorem Propagates.ends_bind {s : Service α} {f : α → Service β} (hs : s.Propagates)
    {es : List Exchange} {o : Option (Except ServiceError β)} (h : (s >>= f).Ends es o)
    (hf : ∀ a es₁ es₂, es = es₁ ++ es₂ → s.Gives es₁ a → (f a).Propagates) :
    ∃ result, o = some result ∧ (EndsRetryable result ↔ ∃ e ∈ es, e.IsTransient) := by
  rcases ends_bind_iff.mp h with
    ⟨a, es₁, es₂, rfl, hFirst, hSecond⟩ | ⟨e, hFirst, rfl⟩ | ⟨hFirst, rfl⟩
  · obtain ⟨result, rfl, hIff⟩ := hf a es₁ es₂ rfl hFirst es₂ o hSecond
    refine ⟨result, rfl, hIff.trans ?_⟩
    -- the first part adds calls, but none that has failed in a way that passes
    have hQuiet := hs.quiet hFirst
    constructor
    · rintro ⟨e, he, hTransient⟩
      exact ⟨e, List.mem_append_right es₁ he, hTransient⟩
    · rintro ⟨e, he, hTransient⟩
      rcases List.mem_append.mp he with he | he
      · exact absurd hTransient (hQuiet e he)
      · exact ⟨e, he, hTransient⟩
  · obtain ⟨result, hResult, hIff⟩ := hs es _ hFirst
    cases hResult
    exact ⟨_, rfl, (endsRetryable_error_iff.trans endsRetryable_error_iff.symm).trans hIff⟩
  · obtain ⟨result, hResult, -⟩ := hs es none hFirst
    cases hResult

theorem Propagates.bind {s : Service α} {f : α → Service β} (hs : s.Propagates)
    (hf : ∀ a, (f a).Propagates) : (s >>= f).Propagates :=
  fun _ _ h => hs.ends_bind h fun a _ _ _ _ => hf a

theorem propagates_pure {a : α} : (pure a : Service α).Propagates := by
  rintro es o ⟨rfl, rfl⟩
  exact ⟨.ok a, rfl, by simp [not_endsRetryable_ok]⟩

theorem propagates_throw {e : ServiceError} (h : e.isRetryable = false) :
    (throw e : Service α).Propagates := by
  rintro es o ⟨rfl, rfl⟩
  exact ⟨.error e, rfl, by simp [endsRetryable_error_iff, h]⟩

theorem Propagates.discard {s : Service α} (hs : s.Propagates) :
    (Functor.discard s : Service Unit).Propagates := by
  rw [discard_eq]
  exact hs.bind fun _ => propagates_pure

/-- A computation without calls propagates if it is never cut short and its errors stay. -/
theorem propagates_crypto {x : Except CryptoError α} :
    (ofAttempt ((Attempt.ofExcept x).mapError ServiceError.crypto)).Propagates := by
  cases x with
  | error cause => exact propagates_throw rfl
  | ok a => exact propagates_pure

/-! ## The seams -/

/-- A seam propagates if its outcome is an error that may be mended exactly when its call has failed in a
way that passes. -/
theorem propagates_ask {c : Call} {outcome : c.Answer → Except ServiceError α}
    (h : ∀ answer, EndsRetryable (outcome answer) ↔ Exchange.IsTransient ⟨c, answer⟩) :
    (ask c outcome).Propagates := by
  intro es o hEnds
  obtain ⟨answer, rfl, rfl⟩ := ends_ask_iff.mp hEnds
  exact ⟨outcome answer, rfl, by simpa using h answer⟩

/-- A notification that must be taken has failed in a way that passes whatever the error is. -/
theorem isTransient_send_iff {n : Notification} {answer : Except ServiceError Unit}
    (hMust : (Call.send n).isTolerated = false) :
    Exchange.IsTransient ⟨.send n, answer⟩ ↔ ∃ err, answer = .error err := by
  constructor
  · rintro ⟨-, err, hError, -⟩
    rcases answer with e | ⟨⟨⟩⟩
    · exact ⟨e, rfl⟩
    · cases hError
  · rintro ⟨err, rfl⟩
    exact ⟨hMust, err, rfl, Or.inl ⟨n, rfl⟩⟩

theorem not_isTransient_of_isTolerated {e : Exchange} (h : e.call.isTolerated = true) :
    ¬e.IsTransient := by
  rintro ⟨hStrict, -⟩
  rw [h] at hStrict
  cases hStrict

/-- A call of storage propagates if its outcome is an error that may be mended exactly when its own error
is one. -/
theorem propagates_storage {c : Call} {outcome : c.Answer → Except ServiceError α}
    (hStorage : c.isStorage = true)
    (h : ∀ answer, EndsRetryable (outcome answer) ↔
      ∃ e, Exchange.failure? ⟨c, answer⟩ = some e ∧ e.isRetryable = true) :
    (ask c outcome).Propagates := by
  refine propagates_ask fun answer => (h answer).trans ?_
  constructor
  · rintro ⟨e, hError, hRetryable⟩
    exact ⟨Call.isTolerated_of_isStorage hStorage, e, hError,
      Or.inr (ServiceError.isRetryable_iff.mp hRetryable)⟩
  · rintro ⟨-, e, hError, ⟨n, hn⟩ | hKind⟩
    · exact absurd hn (Call.ne_send_of_isStorage hStorage n)
    · exact ⟨e, hError, ServiceError.isRetryable_iff.mpr hKind⟩

theorem now_propagates : now.Propagates := by
  rw [now_eq]
  refine propagates_storage rfl fun answer => iff_of_false not_endsRetryable_ok ?_
  rintro ⟨e, hError, -⟩
  cases hError

/-- A look-up propagates, for a miss is no error that may be mended. -/
theorem propagates_found {c : Call} {missing : ServiceError}
    (read : c.Answer → Except ServiceError (Option α)) (hMissing : missing.isRetryable = false)
    (hStorage : c.isStorage = true)
    (hFailure : ∀ answer, Exchange.failure? ⟨c, answer⟩ = Exchange.errorOf? (read answer)) :
    (ask c fun answer => found missing (read answer)).Propagates := by
  refine propagates_storage hStorage fun answer => ?_
  rw [hFailure]
  rcases read answer with e | _ | a
  · simp [found, Exchange.errorOf?, endsRetryable_error_iff]
  · simp [found, Exchange.errorOf?, endsRetryable_error_iff, hMissing]
  · simp [found, Exchange.errorOf?, not_endsRetryable_ok]

theorem getDevice_propagates (devEui : Eui64) : (getDevice devEui).Propagates := by
  rw [getDevice_eq]
  refine propagates_found (c := .getDevice devEui) (fun answer => answer) rfl rfl fun answer => ?_
  cases answer <;> rfl

theorem updateDevice_propagates (devEui : Eui64) (mutation : DeviceMutation) :
    (updateDevice devEui mutation).Propagates := by
  rw [updateDevice_eq]
  refine propagates_found (c := .updateDevice devEui mutation) (fun answer => answer) rfl rfl fun answer => ?_
  cases answer <;> rfl

theorem getApplication_propagates (id : Int64) : (getApplication id).Propagates := by
  rw [getApplication_eq]
  refine propagates_found (c := .getApplication id) (fun answer => answer) rfl rfl fun answer => ?_
  cases answer <;> rfl

theorem lastActivation_propagates (devEui : Eui64) : (lastActivation devEui).Propagates := by
  rw [lastActivation_eq]
  refine propagates_found (c := .lastActivation devEui) (fun answer => answer) rfl rfl fun answer => ?_
  cases answer <;> rfl

theorem createActivation_propagates (devEui : Eui64) (devAddr : DevAddr) (appSKey : Aes128Key) :
    (createActivation devEui devAddr appSKey).Propagates := by
  rw [createActivation_eq]
  refine propagates_storage rfl fun answer => ?_
  cases answer with
  | error e =>
    refine endsRetryable_error_iff.trans ⟨fun h => ⟨e, rfl, h⟩, ?_⟩
    rintro ⟨e', hError, h⟩
    obtain rfl := Option.some.inj hError
    exact h
  | ok a =>
    refine iff_of_false not_endsRetryable_ok ?_
    rintro ⟨e, hError, -⟩
    cases hError

/-- A seam whose failure is tolerated never ends a service. -/
theorem propagates_tolerated {c : Call} {value : c.Answer → α} (h : c.isTolerated = true) :
    (ask c fun answer => .ok (value answer)).Propagates :=
  propagates_ask fun _ => iff_of_false not_endsRetryable_ok (not_isTransient_of_isTolerated h)

theorem getGateways_propagates (ids : List Eui64) : (getGateways ids).Propagates := by
  rw [getGateways_eq]
  exact propagates_tolerated rfl

theorem record_propagates (n : Notification) : (record n).Propagates := propagates_tolerated rfl

theorem offer_propagates {n : Notification} (h : (Call.send n).isTolerated = true) :
    (offer n).Propagates := propagates_tolerated h

theorem dispatchError_isRetryable (e : ServiceError) : (dispatchError e).isRetryable = true := by
  cases e <;> rfl

theorem deliver_propagates {n : Notification} (h : (Call.send n).isTolerated = false) :
    (deliver n).Propagates := by
  rw [deliver_eq]
  refine propagates_ask fun answer => ?_
  rw [isTransient_send_iff h]
  -- whatever the integration says, the service calls it a failed dispatch
  rcases answer with e | ⟨⟨⟩⟩
  · exact iff_of_true (endsRetryable_error_iff.mpr (dispatchError_isRetryable e)) ⟨e, rfl⟩
  · exact iff_of_false not_endsRetryable_ok (by simp)

/-! ## The operations -/

theorem ack_propagates (r : AckRequest) : (ack r).Propagates := by
  refine (getDevice_propagates r.devEui).bind fun d => ?_
  refine (getApplication_propagates d.applicationId).bind fun a => ?_
  exact (record_propagates _).bind fun _ => offer_propagates rfl

theorem error_propagates (r : ErrorRequest) : (error r).Propagates := by
  refine (getDevice_propagates r.devEui).bind fun d => ?_
  refine (getApplication_propagates d.applicationId).bind fun a => ?_
  exact (record_propagates _).bind fun _ => offer_propagates rfl

theorem status_propagates (r : StatusRequest) : (status r).Propagates := by
  refine (updateDevice_propagates r.devEui _).bind fun d => ?_
  refine (getApplication_propagates d.applicationId).bind fun a => ?_
  exact (record_propagates _).bind fun _ => deliver_propagates rfl

theorem location_propagates (r : LocationRequest) : (location r).Propagates := by
  unfold location
  cases r.location with
  | none => exact propagates_throw rfl
  | some l =>
    refine (updateDevice_propagates r.devEui _).bind fun d => ?_
    refine (getApplication_propagates d.applicationId).bind fun a => ?_
    exact (record_propagates _).bind fun _ => deliver_propagates rfl

theorem activate_propagates (keks : KekSet) (d : Device) (a : Application)
    (context : ActivationContext) : (activate keks d a context).Propagates := by
  unfold activate
  cases context.appSKey with
  | none => exact propagates_throw rfl
  | some envelope =>
    refine propagates_crypto.bind fun appSKey => ?_
    refine (createActivation_propagates _ _ _).bind fun activation => ?_
    refine (record_propagates _).bind fun _ => ?_
    exact (deliver_propagates rfl).bind fun _ => propagates_pure

theorem joinLeg_propagates (keks : KekSet) (d : Device) (a : Application)
    (context? : Option ActivationContext) : (joinLeg keks d a context?).Propagates := by
  cases context? with
  | none => exact propagates_pure
  | some context => exact (activate_propagates keks d a context).discard

theorem approach_propagates (keks : KekSet) (r : UplinkRequest) : (approach keks r).Propagates := by
  unfold approach
  cases r.txInfo with
  | none => exact propagates_throw rfl
  | some tx =>
    refine now_propagates.bind fun time => ?_
    refine (updateDevice_propagates r.devEui _).bind fun d => ?_
    refine (getApplication_propagates d.applicationId).bind fun a => ?_
    refine (joinLeg_propagates keks d a r.context).bind fun _ => ?_
    exact (lastActivation_propagates d.devEui).bind fun _ => propagates_pure

theorem decodePayload_propagates {decoder : UplinkDecoder} {d : Device} {a : Application}
    {fCnt : UInt32} {fPort : UInt8} {data : List UInt8}
    (h : decoder a.codec fPort data ≠ .error .abort) :
    (decodePayload decoder d a fCnt fPort data).Propagates := by
  unfold decodePayload
  rcases hDecoder : decoder a.codec fPort data with (e | _) | object
  · refine (record_propagates _).bind fun _ => ?_
    exact (offer_propagates rfl).bind fun _ => propagates_pure
  · exact absurd hDecoder h
  · exact propagates_pure

/-- A handover propagates unless its decoder is cut short on the opened payload. -/
theorem handover_propagates {decoder : UplinkDecoder} {r : UplinkRequest} {l : Located}
    (h : ∀ data, FramePayload.decryptUplink l.session.appSKey l.session.devAddr r.fCnt r.data =
      .ok data → decoder l.application.codec r.fPort data ≠ .error .abort) :
    (handover decoder r l).Propagates := by
  cases hData : FramePayload.decryptUplink l.session.appSKey l.session.devAddr r.fCnt r.data with
  | error cause =>
    unfold handover
    rw [hData]
    exact propagates_throw rfl
  | ok data =>
    rw [handover_opened hData]
    refine (decodePayload_propagates (h data hData)).bind fun object => ?_
    refine (getGateways_propagates _).bind fun gateways => ?_
    exact (record_propagates _).bind fun _ => deliver_propagates rfl

end Service

end Lorawan
