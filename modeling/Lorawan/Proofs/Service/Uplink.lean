import Lorawan.Proofs.Service.Conversation
import Lorawan.Service.Uplink

/-!
# The course of an uplink

An uplink has two legs.  The *approach* finds the device, its application and its session, with the join
in between if the uplink carries one.  The *handover* opens the payload, has it decoded and hands it to
the integration.
-/

namespace Lorawan.Service

/-- What an uplink has found when its payload is opened. -/
structure Located where
  tx : TxReport
  device : Device
  application : Application
  session : Activation

/-- The join that an uplink may carry. -/
def joinLeg (keks : KekSet) (d : Device) (a : Application) : Option ActivationContext → Service Unit
  | some context => discard (activate keks d a context)
  | none => pure ()

/-- The first leg of an uplink. -/
def approach (keks : KekSet) (r : UplinkRequest) : Service Located := do
  let some tx := r.txInfo | throw (.invalidArgument "tx_info must not be empty")
  let time ← now
  let d ← updateDevice r.devEui (.markSeen time)
  let a ← getApplication d.applicationId
  joinLeg keks d a r.context
  let session ← lastActivation d.devEui
  return ⟨tx, d, a, session⟩

/-- The notification of an uplink. -/
def dataUp (r : UplinkRequest) (l : Located) (gateways : Table Eui64 Gateway) (data : List UInt8)
    (object : Option Json) : DataUp where
  origin := .of l.application l.device
  rxInfo := r.rxInfo.map (rxInfo gateways)
  txInfo := ⟨l.tx.frequency, l.tx.dr⟩
  adr := l.tx.adr
  fCnt := r.fCnt
  fPort := r.fPort
  data := data
  object := object

/-- The second leg of an uplink. -/
def handover (decoder : UplinkDecoder) (r : UplinkRequest) (l : Located) : Service Unit := do
  let data ← ofAttempt <| (Attempt.ofExcept
    (FramePayload.decryptUplink l.session.appSKey l.session.devAddr r.fCnt r.data)).mapError .crypto
  let object ← decodePayload decoder l.device l.application r.fCnt r.fPort data
  let gateways ← getGateways (r.rxInfo.map RxReport.gatewayId)
  record (.dataUp (dataUp r l gateways data object))
  deliver (.dataUp (dataUp r l gateways data object))

theorem uplink_eq (keks : KekSet) (decoder : UplinkDecoder) (r : UplinkRequest) :
    uplink keks decoder r = approach keks r >>= handover decoder r := by
  unfold uplink approach
  cases r.txInfo with
  | none => rfl
  | some tx =>
    cases r.context with
    | none => simp only [joinLeg, bind_assoc, pure_bind]; rfl
    | some context => simp only [joinLeg, bind_assoc, pure_bind]; rfl

/-! ## The approach -/

theorem gives_approach_iff {keks : KekSet} {r : UplinkRequest} {es : List Exchange} {l : Located} :
    (approach keks r).Gives es l ↔
      r.txInfo = some l.tx ∧ ∃ time joined,
        es = ⟨.now, time⟩ :: ⟨.updateDevice r.devEui (.markSeen time), .ok (some l.device)⟩ ::
          ⟨.getApplication l.device.applicationId, .ok (some l.application)⟩ ::
          (joined ++ [⟨.lastActivation l.device.devEui, .ok (some l.session)⟩]) ∧
        (joinLeg keks l.device l.application r.context).Gives joined () := by
  obtain ⟨tx, d, a, session⟩ := l
  unfold approach
  -- every seam but the join is one exchange, whose answer must be a find
  cases hTx : r.txInfo with
  | none => simp [Gives, ends_throw_iff]
  | some tx' =>
    simp only [now_eq, updateDevice_eq, getApplication_eq, lastActivation_eq, gives_ask_bind_iff,
      found_eq_ok_iff]
    constructor
    · rintro ⟨time, _, _, rfl, hTime, _, d', _, rfl, rfl, _, a', _, rfl, rfl, h⟩
      cases hTime
      obtain ⟨⟨⟩, joined, _, rfl, hJoined, h⟩ := gives_bind_iff.mp h
      obtain ⟨_, session', _, rfl, hSession, hDone⟩ := gives_ask_bind_iff.mp h
      obtain rfl := found_eq_ok_iff.mp hSession
      obtain ⟨rfl, hl⟩ := gives_pure_iff.mp hDone
      cases hl
      exact ⟨rfl, time, joined, rfl, hJoined⟩
    · rintro ⟨hTx, time, joined, rfl, hJoined⟩
      cases hTx
      refine ⟨time, time, _, rfl, rfl, _, d, _, rfl, rfl, _, a, _, rfl, rfl, ?_⟩
      refine gives_bind_iff.mpr ⟨(), joined, _, rfl, hJoined, ?_⟩
      refine gives_ask_bind_iff.mpr ⟨_, session, [], rfl, found_eq_ok_iff.mpr rfl, ?_⟩
      exact gives_pure_iff.mpr ⟨rfl, rfl⟩

/-- Whether a call looks something up, or notes when a device was seen: such calls leave no effect and no
activation. -/
def isLookup : Call → Bool
  | .now | .getDevice _ | .updateDevice .. | .getApplication _ | .lastActivation _ | .getGateways _ => true
  | .createActivation .. | .log .. | .send _ => false

/-- The notification of a join. -/
def joined (d : Device) (a : Application) (context : ActivationContext) : Notification :=
  .join ⟨.of a d, context.devAddr⟩

/-- The ways in which an activation ends: before its row is asked for, with the row refused, and with the
row stored and the join told. -/
theorem activate_cases {keks : KekSet} {d : Device} {a : Application} {context : ActivationContext}
    {es : List Exchange} {o : Option (Except ServiceError Activation)}
    (h : (activate keks d a context).Ends es o) :
    (es = [] ∧ ∃ e, o = some (.error e)) ∨
      ∃ envelope appSKey, context.appSKey = some envelope ∧ keks.resolve envelope = .ok appSKey ∧
        ((∃ e, es = [⟨.createActivation d.devEui context.devAddr appSKey, .error e⟩] ∧
            o = some (.error e)) ∨
          ∃ activation logged sent,
            es = [⟨.createActivation d.devEui context.devAddr appSKey, .ok activation⟩,
              ⟨.log d.devEui (.ofNotification (joined d a context)), logged⟩,
              ⟨.send (joined d a context), sent⟩] ∧
            o = some ((sent.mapError dispatchError).map fun _ => activation)) := by
  unfold activate at h
  -- no call is made before the key is known
  cases hEnvelope : context.appSKey with
  | none =>
    rw [hEnvelope] at h
    exact Or.inl ⟨h.1, _, h.2⟩
  | some envelope =>
    simp only [hEnvelope] at h
    cases hKey : keks.resolve envelope with
    | error e =>
      rw [hKey] at h
      exact Or.inl ⟨h.1, _, h.2⟩
    | ok appSKey =>
      refine Or.inr ⟨envelope, appSKey, rfl, hKey, ?_⟩
      rw [hKey] at h
      obtain ⟨activation | activation, rest, rfl, h⟩ := h
      · obtain ⟨rfl, rfl⟩ := h
        exact Or.inl ⟨activation, rfl, rfl⟩
      · obtain ⟨logged, rest, rfl, sent | ⟨⟩, rest, rfl, rfl, rfl⟩ := h
        · exact Or.inr ⟨activation, logged, _, rfl, rfl⟩
        · exact Or.inr ⟨activation, logged, _, rfl, rfl⟩

/-- The ways in which the join of an uplink ends: without a call, with the row refused, and with the row
stored and the join told. -/
theorem joinLeg_cases {keks : KekSet} {d : Device} {a : Application}
    {context? : Option ActivationContext} {es : List Exchange}
    {o : Option (Except ServiceError Unit)} (h : (joinLeg keks d a context?).Ends es o) :
    (es = [] ∧ (context? = none ∧ o = some (.ok ()) ∨ ∃ e, o = some (.error e))) ∨
      ∃ context envelope appSKey, context? = some context ∧ context.appSKey = some envelope ∧
        keks.resolve envelope = .ok appSKey ∧
        ((∃ e, es = [⟨.createActivation d.devEui context.devAddr appSKey, .error e⟩] ∧
            o = some (.error e)) ∨
          ∃ activation logged sent,
            es = [⟨.createActivation d.devEui context.devAddr appSKey, .ok activation⟩,
              ⟨.log d.devEui (.ofNotification (joined d a context)), logged⟩,
              ⟨.send (joined d a context), sent⟩] ∧
            o = some (sent.mapError dispatchError)) := by
  cases context? with
  | none =>
    obtain ⟨rfl, rfl⟩ := ends_pure_iff.mp h
    exact Or.inl ⟨rfl, Or.inl ⟨rfl, rfl⟩⟩
  | some context =>
    obtain ⟨o', hActivate, rfl⟩ := ends_discard_iff.mp h
    -- the key comes first: without it neither a row nor a notification
    rcases activate_cases hActivate with ⟨rfl, e, rfl⟩ | ⟨envelope, appSKey, hEnvelope, hKey, h⟩
    · exact Or.inl ⟨rfl, Or.inr ⟨e, rfl⟩⟩
    refine Or.inr ⟨context, envelope, appSKey, rfl, hEnvelope, hKey, ?_⟩
    rcases h with ⟨e, rfl, rfl⟩ | ⟨activation, logged, sent, rfl, rfl⟩
    · exact Or.inl ⟨e, rfl, rfl⟩
    · refine Or.inr ⟨activation, logged, sent, rfl, ?_⟩
      rcases sent with e | ⟨⟨⟩⟩ <;> rfl

/-- The join of an uplink that got past it: the row was stored, and the join was told. -/
theorem gives_joinLeg {keks : KekSet} {d : Device} {a : Application} {context : ActivationContext}
    {es : List Exchange} (h : (joinLeg keks d a (some context)).Gives es ()) :
    ∃ envelope appSKey own logged sent,
      context.appSKey = some envelope ∧ keks.resolve envelope = .ok appSKey ∧
      es = [⟨.createActivation d.devEui context.devAddr appSKey, .ok own⟩,
        ⟨.log d.devEui (.ofNotification (joined d a context)), logged⟩,
        ⟨.send (joined d a context), sent⟩] := by
  rcases joinLeg_cases h with ⟨-, ⟨hNone, -⟩ | ⟨e, hError⟩⟩ |
    ⟨context', envelope, appSKey, hContext, hEnvelope, hKey, hEnds⟩
  · cases hNone
  · cases hError
  cases hContext
  rcases hEnds with ⟨e, -, hError⟩ | ⟨own, logged, sent, rfl, -⟩
  · cases hError
  · exact ⟨envelope, appSKey, own, logged, sent, hEnvelope, hKey, rfl⟩

/-- The ways in which an approach ends, by the point that it has got to. -/
inductive Approaches (keks : KekSet) (r : UplinkRequest) :
    List Exchange → Option (Except ServiceError Located) → Prop
  /-- The uplink says nothing of its transmission. -/
  | rejected (h : r.txInfo = none) :
    Approaches keks r [] (some (.error (.invalidArgument "tx_info must not be empty")))
  /-- The device could not be updated, or is not there. -/
  | unseen {time : Time.Instant} {answer : Except ServiceError (Option Device)} {e : ServiceError}
    (hTx : r.txInfo ≠ none) (h : found (.deviceNotFound r.devEui.text) answer = .error e) :
    Approaches keks r [⟨.now, time⟩, ⟨.updateDevice r.devEui (.markSeen time), answer⟩]
      (some (.error e))
  /-- The application could not be looked up, or is not there. -/
  | unowned {time : Time.Instant} {d : Device} {answer : Except ServiceError (Option Application)}
    {e : ServiceError} (hTx : r.txInfo ≠ none)
    (h : found (.applicationNotFound d.applicationId) answer = .error e) :
    Approaches keks r [⟨.now, time⟩, ⟨.updateDevice r.devEui (.markSeen time), .ok (some d)⟩,
      ⟨.getApplication d.applicationId, answer⟩] (some (.error e))
  /-- The join has failed. -/
  | halted {time : Time.Instant} {d : Device} {a : Application} {join : List Exchange}
    {e : ServiceError} (hTx : r.txInfo ≠ none)
    (hJoin : (joinLeg keks d a r.context).Ends join (some (.error e))) :
    Approaches keks r (⟨.now, time⟩ :: ⟨.updateDevice r.devEui (.markSeen time), .ok (some d)⟩ ::
      ⟨.getApplication d.applicationId, .ok (some a)⟩ :: join) (some (.error e))
  /-- The join is over, and the session was looked up. -/
  | joined {tx : TxReport} {time : Time.Instant} {d : Device} {a : Application} {join : List Exchange}
    {answer : Except ServiceError (Option Activation)} {o : Option (Except ServiceError Located)}
    (hTx : r.txInfo = some tx) (hJoin : (joinLeg keks d a r.context).Gives join ())
    (hResult : o = some ((found (.deviceActivationNotFound d.devEui.text) answer).map (⟨tx, d, a, ·⟩))) :
    Approaches keks r (⟨.now, time⟩ :: ⟨.updateDevice r.devEui (.markSeen time), .ok (some d)⟩ ::
      ⟨.getApplication d.applicationId, .ok (some a)⟩ ::
      (join ++ [⟨.lastActivation d.devEui, answer⟩])) o

/-- No join is cut short. -/
theorem joinLeg_returns {keks : KekSet} {d : Device} {a : Application}
    {context? : Option ActivationContext} {es : List Exchange} :
    ¬(joinLeg keks d a context?).Ends es none := by
  intro h
  rcases joinLeg_cases h with ⟨-, ⟨-, h⟩ | ⟨e, h⟩⟩ | ⟨_, _, _, -, -, -, ⟨e, -, h⟩ | ⟨_, _, _, -, h⟩⟩ <;>
    cases h

theorem approaches_of_ends {keks : KekSet} {r : UplinkRequest} {es : List Exchange}
    {o : Option (Except ServiceError Located)} (h : (approach keks r).Ends es o) :
    Approaches keks r es o := by
  unfold approach at h
  cases hTx : r.txInfo with
  | none =>
    rw [hTx] at h
    obtain ⟨rfl, rfl⟩ := h
    exact .rejected hTx
  | some tx =>
    simp only [hTx, now_eq, updateDevice_eq, getApplication_eq, lastActivation_eq,
      ends_ask_bind_iff] at h
    have hSent : r.txInfo ≠ none := by simp [hTx]
    -- the device and the application, each of which may be missing
    obtain ⟨time, _, rfl, e | _ | d, _, rfl, h⟩ := h
    · obtain ⟨rfl, rfl⟩ := h
      exact .unseen hSent rfl
    · obtain ⟨rfl, rfl⟩ := h
      exact .unseen hSent rfl
    obtain ⟨e | _ | a, _, rfl, h⟩ := h
    · obtain ⟨rfl, rfl⟩ := h
      exact .unowned hSent rfl
    · obtain ⟨rfl, rfl⟩ := h
      exact .unowned hSent rfl
    rcases ends_bind_iff.mp h with ⟨⟨⟩, join, _, rfl, hJoin, hLast⟩ | ⟨e, hJoin, rfl⟩ | ⟨hJoin, -⟩
    · obtain ⟨answer, _, rfl, hDone⟩ := ends_ask_bind_iff.mp hLast
      rcases answer with e | _ | session <;> obtain ⟨rfl, rfl⟩ := hDone <;>
        exact .joined hTx hJoin rfl
    · exact .halted hSent hJoin
    · exact absurd hJoin joinLeg_returns

/-- Whether a conversation is made of calls of some kind and, between those, of the join of the device
that they have found, if it got as far as that. -/
def AroundJoin (keks : KekSet) (r : UplinkRequest) (P : Call → Prop) (es : List Exchange) : Prop :=
  ∃ before join after, es = before ++ join ++ after ∧ (∀ e ∈ before ++ after, P e.call) ∧
    (join = [] ∨ ∃ time d a o,
      ⟨.updateDevice r.devEui (.markSeen time), .ok (some d)⟩ ∈ before ∧
      (joinLeg keks d a r.context).Ends join o)

/-- What comes before and after adds nothing if each of it adds nothing. -/
theorem filterMap_around {α β : Type} {part : α → Option β} {before mid after : List α}
    (h : ∀ x ∈ before ++ after, part x = none) :
    (before ++ mid ++ after).filterMap part = mid.filterMap part := by
  have hBefore : before.filterMap part = [] :=
    List.filterMap_eq_nil_iff.mpr fun x hx => h x (List.mem_append_left after hx)
  have hAfter : after.filterMap part = [] :=
    List.filterMap_eq_nil_iff.mpr fun x hx => h x (List.mem_append_right before hx)
  rw [List.filterMap_append, List.filterMap_append, hBefore, hAfter, List.nil_append, List.append_nil]

namespace AroundJoin

variable {keks : KekSet} {r : UplinkRequest} {P Q : Call → Prop} {es rest : List Exchange}

theorem of_forall (h : ∀ e ∈ es, P e.call) : AroundJoin keks r P es :=
  ⟨es, [], [], by simp, by simpa using h, Or.inl rfl⟩

theorem mono (h : AroundJoin keks r P es) (hPQ : ∀ c, P c → Q c) : AroundJoin keks r Q es := by
  obtain ⟨before, join, after, hes, hCalls, hJoin⟩ := h
  exact ⟨before, join, after, hes, fun e he => hPQ e.call (hCalls e he), hJoin⟩

theorem append (h : AroundJoin keks r P es) (hRest : ∀ e ∈ rest, P e.call) :
    AroundJoin keks r P (es ++ rest) := by
  obtain ⟨before, join, after, rfl, hCalls, hJoin⟩ := h
  refine ⟨before, join, after ++ rest, by simp, ?_, hJoin⟩
  intro e he
  rw [← List.append_assoc, List.mem_append] at he
  rcases he with he | he
  · exact hCalls e he
  · exact hRest e he

end AroundJoin

/-- The whole conversation of an approach: look-ups, the join, and look-ups again. -/
theorem approach_around_join {keks : KekSet} {r : UplinkRequest} {es : List Exchange}
    {o : Option (Except ServiceError Located)} (h : (approach keks r).Ends es o) :
    AroundJoin keks r (isLookup · = true) es := by
  cases approaches_of_ends h with
  | rejected hTx => exact .of_forall (by simp)
  | unseen hTx hMissing => exact .of_forall (by simp [isLookup])
  | unowned hTx hMissing => exact .of_forall (by simp [isLookup])
  | @halted time d a join e hTx hJoin =>
    -- the row of the device is the second of the three exchanges before the join
    exact ⟨[_, _, _], join, [], (List.append_nil _).symm, by simp [isLookup],
      Or.inr ⟨time, d, a, _, by simp, hJoin⟩⟩
  | @joined tx time d a join answer _ hTx hJoin hResult =>
    exact ⟨[_, _, _], join, [_], rfl, by simp [isLookup],
      Or.inr ⟨time, d, a, _, by simp, hJoin⟩⟩

/-! ## Decoding -/

/-- The report of a payload that the codec could not decode. -/
def codecFault (d : Device) (a : Application) (fCnt : UInt32) (e : ServiceError) : Notification :=
  .error ⟨.of a d, ErrorNotification.codecType, e.message, fCnt⟩

/-- The three ways in which decoding ends: with the answer of the codec, with a report of its error, or
cut short. -/
theorem decodePayload_cases {decoder : UplinkDecoder} {d : Device} {a : Application}
    {fCnt : UInt32} {fPort : UInt8} {data : List UInt8} {es : List Exchange}
    {o : Option (Except ServiceError (Option Json))}
    (h : (decodePayload decoder d a fCnt fPort data).Ends es o) :
    (∃ object, decoder a.codec fPort data = .ok object ∧ es = [] ∧ o = some (.ok object)) ∨
      (∃ e logged sent, decoder a.codec fPort data = .error (.error e) ∧
        es = [⟨.log d.devEui (.ofNotification (codecFault d a fCnt e)), logged⟩,
          ⟨.send (codecFault d a fCnt e), sent⟩] ∧ o = some (.ok none)) ∨
      (decoder a.codec fPort data = .error .abort ∧ es = [] ∧ o = none) := by
  unfold decodePayload at h
  rcases hDecoder : decoder a.codec fPort data with (e | _) | object
  · simp only [hDecoder, record_eq, offer_eq, ends_ask_bind_iff] at h
    obtain ⟨logged, _, rfl, sent, _, rfl, rfl, rfl⟩ := h
    exact Or.inr (Or.inl ⟨e, logged, sent, rfl, rfl, rfl⟩)
  · rw [hDecoder] at h
    exact Or.inr (Or.inr ⟨rfl, h⟩)
  · rw [hDecoder] at h
    exact Or.inl ⟨object, rfl, h⟩

/-! ## The handover -/

/-- A payload that is too large stops the handover before its first call. -/
theorem handover_stops {decoder : UplinkDecoder} {r : UplinkRequest} {l : Located}
    {cause : CryptoError} {es : List Exchange} {o : Option (Except ServiceError Unit)}
    (hData : FramePayload.decryptUplink l.session.appSKey l.session.devAddr r.fCnt r.data =
      .error cause)
    (h : (handover decoder r l).Ends es o) : es = [] ∧ o = some (.error (.crypto cause)) := by
  unfold handover at h
  rw [hData] at h
  exact h

/-- What is left of a handover once the payload was opened. -/
theorem handover_opened {decoder : UplinkDecoder} {r : UplinkRequest} {l : Located}
    {data : List UInt8}
    (hData : FramePayload.decryptUplink l.session.appSKey l.session.devAddr r.fCnt r.data =
      .ok data) :
    handover decoder r l = (do
      let object ← decodePayload decoder l.device l.application r.fCnt r.fPort data
      let gateways ← getGateways (r.rxInfo.map RxReport.gatewayId)
      record (.dataUp (dataUp r l gateways data object))
      deliver (.dataUp (dataUp r l gateways data object))) := by
  unfold handover
  rw [hData]
  rfl

/-- A payload that was opened goes to the integration, unless its decoding is cut short: after the
decoding come the gateways, the log entry and the notification, in this order. -/
theorem handover_cases {decoder : UplinkDecoder} {r : UplinkRequest} {l : Located}
    {data : List UInt8} {es : List Exchange} {o : Option (Except ServiceError Unit)}
    (hData : FramePayload.decryptUplink l.session.appSKey l.session.devAddr r.fCnt r.data =
      .ok data)
    (h : (handover decoder r l).Ends es o) :
    (∃ report object known logged sent,
      (decodePayload decoder l.device l.application r.fCnt r.fPort data).Gives report object ∧
      es = report ++
        [⟨.getGateways (r.rxInfo.map RxReport.gatewayId), known⟩,
          ⟨.log l.device.devEui
            (.ofNotification (.dataUp (dataUp r l (knownGateways known) data object))), logged⟩,
          ⟨.send (.dataUp (dataUp r l (knownGateways known) data object)), sent⟩] ∧
      o = some (sent.mapError dispatchError)) ∨
    (decoder l.application.codec r.fPort data = .error .abort ∧ es = [] ∧ o = none) := by
  -- the exchanges are those of decoding, followed by the gateways, the log and the send
  rw [handover_opened hData, ends_bind_iff] at h
  simp only [getGateways_eq, record_eq, deliver_eq, ends_ask_bind_iff] at h
  rcases h with ⟨object, report, _, rfl, hReport, known, _, rfl, h⟩ | ⟨e, h, -⟩ | ⟨h, rfl⟩
  · obtain ⟨logged, _, rfl, h⟩ := h
    obtain ⟨sent, rfl, rfl⟩ := ends_ask_iff.mp h
    exact Or.inl ⟨report, object, known, logged, sent, hReport, rfl, rfl⟩
  · -- decoding itself never fails
    rcases decodePayload_cases h with ⟨_, -, -, h⟩ | ⟨_, _, _, -, -, h⟩ | ⟨-, -, h⟩ <;> cases h
  · rcases decodePayload_cases h with ⟨_, -, -, h⟩ | ⟨_, _, _, -, -, h⟩ | ⟨hAbort, hEs, -⟩
    · cases h
    · cases h
    · exact Or.inr ⟨hAbort, hEs, rfl⟩

/-! ## What each part calls -/

/-- The calls of an activation. -/
def isActivationCall : Call → Bool
  | .createActivation .. | .log .. | .send (.join _) => true
  | _ => false

/-- The calls of an approach. -/
def isApproachCall (c : Call) : Bool := isLookup c || isActivationCall c

/-- The calls of a handover. -/
def isHandoverCall : Call → Bool
  | .getGateways _ | .log .. | .send (.error _) | .send (.dataUp _) => true
  | _ => false

/-- Whether a call hands data to the integration. -/
def sendsData : Call → Bool
  | .send (.dataUp _) => true
  | _ => false

theorem sendsData_of_isApproachCall {c : Call} (h : isApproachCall c = true) :
    sendsData c = false := by
  rcases c with _ | _ | _ | _ | _ | _ | _ | _ | n
  case send => cases n <;> first | rfl | cases h
  all_goals rfl

theorem activate_callsOnly (keks : KekSet) (d : Device) (a : Application)
    (context : ActivationContext) :
    (activate keks d a context).CallsOnly (isActivationCall · = true) := by
  unfold activate
  cases context.appSKey with
  | none => exact callsOnly_throw
  | some envelope =>
    refine CallsOnly.bind callsOnly_ofAttempt fun appSKey => ?_
    refine CallsOnly.bind (callsOnly_ask rfl) fun activation => ?_
    refine CallsOnly.bind (callsOnly_ask rfl) fun _ => ?_
    rw [deliver_eq]
    refine CallsOnly.bind (callsOnly_ask rfl) fun _ => ?_
    exact callsOnly_pure

theorem joinLeg_callsOnly (keks : KekSet) (d : Device) (a : Application)
    (context? : Option ActivationContext) :
    (joinLeg keks d a context?).CallsOnly (isActivationCall · = true) := by
  cases context? with
  | none => exact callsOnly_pure
  | some context => exact CallsOnly.discard (activate_callsOnly keks d a context)

theorem approach_callsOnly (keks : KekSet) (r : UplinkRequest) :
    (approach keks r).CallsOnly (isApproachCall · = true) := by
  unfold approach
  cases r.txInfo with
  | none => exact callsOnly_throw
  | some tx =>
    rw [now_eq]
    refine CallsOnly.bind (callsOnly_ask rfl) fun time => ?_
    rw [updateDevice_eq]
    refine CallsOnly.bind (callsOnly_ask rfl) fun d => ?_
    rw [getApplication_eq]
    refine CallsOnly.bind (callsOnly_ask rfl) fun a => ?_
    have hJoin := Program.CallsOnly.mono (joinLeg_callsOnly keks d a r.context)
      (Q := (isApproachCall · = true)) fun c hc => by simp [isApproachCall, hc]
    refine CallsOnly.bind hJoin fun _ => ?_
    rw [lastActivation_eq]
    exact CallsOnly.bind (callsOnly_ask rfl) fun _ => callsOnly_pure

/-- Decoding calls no more than its report of an error needs. -/
theorem decodePayload_callsOnly {P : Call → Prop} (decoder : UplinkDecoder) (d : Device)
    (a : Application) (fCnt : UInt32) (fPort : UInt8) (data : List UInt8)
    (hLog : ∀ devEui entry, P (.log devEui entry)) (hSend : ∀ n, P (.send (.error n))) :
    (decodePayload decoder d a fCnt fPort data).CallsOnly P := by
  unfold decodePayload
  rcases decoder a.codec fPort data with (e | _) | object
  · refine CallsOnly.bind (callsOnly_ask (hLog _ _)) fun _ => ?_
    refine CallsOnly.bind (callsOnly_ask (hSend _)) fun _ => ?_
    exact callsOnly_pure
  · trivial
  · exact callsOnly_pure

theorem handover_callsOnly (decoder : UplinkDecoder) (r : UplinkRequest) (l : Located) :
    (handover decoder r l).CallsOnly (isHandoverCall · = true) := by
  refine CallsOnly.bind callsOnly_ofAttempt fun data => ?_
  refine CallsOnly.bind (decodePayload_callsOnly _ _ _ _ _ _ (fun _ _ => rfl) fun _ => rfl)
    fun object => ?_
  rw [getGateways_eq]
  refine CallsOnly.bind (callsOnly_ask rfl) fun gateways => ?_
  refine CallsOnly.bind (callsOnly_ask rfl) fun _ => ?_
  rw [deliver_eq]
  exact callsOnly_ask rfl

/-- When an uplink is about to hand over data, its approach has succeeded, and the data were opened under
the session that the approach has found. -/
theorem uplink_asks_dataUp {keks : KekSet} {decoder : UplinkDecoder} {r : UplinkRequest}
    {es : List Exchange} {n : DataUp} (h : (uplink keks decoder r).Asks es (.send (.dataUp n))) :
    ∃ l es₁ es₂, es = es₁ ++ es₂ ∧ (approach keks r).Gives es₁ l ∧
      FramePayload.decryptUplink l.session.appSKey l.session.devAddr r.fCnt r.data = .ok n.data ∧
      n.origin = .of l.application l.device := by
  rw [uplink_eq, asks_bind_iff] at h
  rcases h with h | ⟨l, es₁, es₂, rfl, hApproach, h⟩
  · cases Program.CallsOnly.asks (approach_callsOnly keks r) h
  refine ⟨l, es₁, es₂, rfl, hApproach, ?_⟩
  cases hData : FramePayload.decryptUplink l.session.appSKey l.session.devAddr r.fCnt r.data with
  | error cause =>
    unfold handover at h
    rw [hData] at h
    exact h.elim
  | ok data =>
    rw [handover_opened hData, asks_bind_iff] at h
    simp only [getGateways_eq, record_eq, deliver_eq, asks_ask_bind_iff] at h
    -- of the calls that follow the decoding only the last one is for data
    rcases h with h | ⟨object, _, _, rfl, -, ⟨-, h⟩ | ⟨known, _, rfl, ⟨-, h⟩ | ⟨_, _, rfl, h⟩⟩⟩
    · have hQuiet := decodePayload_callsOnly (P := (sendsData · = false)) decoder l.device
        l.application r.fCnt r.fPort data (fun _ _ => rfl) fun _ => rfl
      cases Program.CallsOnly.asks hQuiet h
    · cases h
    · cases h
    · obtain ⟨-, hCall⟩ := asks_ask_iff.mp h
      cases hCall
      exact ⟨rfl, rfl⟩

end Lorawan.Service
