import Lorawan.Proofs.Service.Delivery
import Lorawan.Proofs.Service.Failure
import Lorawan.Proofs.Service.Rows

/-!
# What a failed uplink leaves behind

An uplink may fail at any of its calls, and within its join.  How far it has got decides what it leaves
behind (`failed_uplink_leaves`): nothing at all before its device was updated, then the time at which the
device was seen, and then the activation of its join.  It has told of its data only if it fails because
they were refused.

* `FailsAfter` lists the conversations of a failed uplink, by the point at which it has failed.
* `Footprint` says what is left behind, in terms of the calls that the uplink has come to and of their
  answers.
-/

namespace Lorawan.Service

variable {σ : Type} {k : Conditions σ} {keks : KekSet} {decoder : UplinkDecoder} {r : UplinkRequest}
  {es : List Exchange} {e : ServiceError} {w w' : World σ}

/-! ## Points of failure -/

/-- Whether a call logs data or hands them to the integration. -/
def tellsData : Call → Bool
  | .log _ entry => entry.type = .uplink
  | .send (.dataUp _) => true
  | _ => false

/-- The calls that find a device and its application. -/
def isEarlyCall : Call → Bool
  | .now | .updateDevice .. | .getApplication _ => true
  | _ => false

/-- The calls that an uplink makes after its join. -/
def isLaterCall : Call → Bool
  | .lastActivation _ | .getGateways _ | .log .. | .send (.error _) | .send (.dataUp _) => true
  | _ => false

/-- Whether exchanges tell of no data, or end in the refusal of the data that they tell of, which is this
error. -/
inductive RefusesData (e : ServiceError) : List Exchange → Prop
  | silent {es : List Exchange} (h : ∀ x ∈ es, tellsData x.call = false) : RefusesData e es
  | refused {before : List Exchange} {n : DataUp} {logged : Except ServiceError Unit}
    {cause : ServiceError} (h : ∀ x ∈ before, tellsData x.call = false) (hError : e = dispatchError cause) :
    RefusesData e (before ++ [⟨.log n.origin.devEui (.ofNotification (.dataUp n)), logged⟩,
      ⟨.send (.dataUp n), .error cause⟩])

theorem RefusesData.cons {x : Exchange} (h : RefusesData e es) (hx : tellsData x.call = false) :
    RefusesData e (x :: es) := by
  cases h with
  | silent h => exact .silent (List.forall_mem_cons.mpr ⟨hx, h⟩)
  | @refused before n logged cause h hError =>
    rw [← List.cons_append]
    exact .refused (List.forall_mem_cons.mpr ⟨hx, h⟩) hError

/-- The conversations of an uplink that has failed with an error. -/
inductive FailsAfter (keks : KekSet) (r : UplinkRequest) (e : ServiceError) : List Exchange → Prop
  /-- The uplink says nothing of its transmission. -/
  | rejected (hTx : r.txInfo = none) : FailsAfter keks r e []
  /-- The device could not be updated, or is not there. -/
  | unseen {time : Time.Instant} {answer : Except ServiceError (Option Device)} (hTx : r.txInfo ≠ none)
    (hMissing : found (.deviceNotFound r.devEui.text) answer = .error e) :
    FailsAfter keks r e [⟨.now, time⟩, ⟨.updateDevice r.devEui (.markSeen time), answer⟩]
  /-- The application could not be looked up, or is not there. -/
  | unowned {time : Time.Instant} {d : Device} {answer : Except ServiceError (Option Application)}
    (hTx : r.txInfo ≠ none)
    (hMissing : found (.applicationNotFound d.applicationId) answer = .error e) :
    FailsAfter keks r e [⟨.now, time⟩, ⟨.updateDevice r.devEui (.markSeen time), .ok (some d)⟩,
      ⟨.getApplication d.applicationId, answer⟩]
  /-- The uplink has failed in its join, or after it. -/
  | late {time : Time.Instant} {d : Device} {a : Application} {join rest : List Exchange}
    {o : Option (Except ServiceError Unit)} (hTx : r.txInfo ≠ none)
    (hJoin : (joinLeg keks d a r.context).Ends join o) (hOver : rest ≠ [] → o = some (.ok ()))
    (hLater : ∀ x ∈ rest, isLaterCall x.call = true) (hData : RefusesData e rest) :
    FailsAfter keks r e (⟨.now, time⟩ :: ⟨.updateDevice r.devEui (.markSeen time), .ok (some d)⟩ ::
      ⟨.getApplication d.applicationId, .ok (some a)⟩ :: (join ++ rest))

/-- A handover fails before it tells of its data, or because they are refused. -/
theorem handover_refuses {l : Located} (h : (handover decoder r l).Ends es (some (.error e))) :
    RefusesData e es := by
  cases hData : FramePayload.decryptUplink l.session.appSKey l.session.devAddr r.fCnt r.data with
  | error cause =>
    obtain ⟨rfl, -⟩ := handover_stops hData h
    exact .silent (by simp)
  | ok payload =>
    rcases handover_cases hData h with ⟨report, object, known, logged, sent, hReport, rfl, hResult⟩ |
      ⟨-, -, hNone⟩
    · -- only the last call tells of the data, and it is the one that was refused
      obtain ⟨cause, rfl, rfl⟩ : ∃ cause, sent = .error cause ∧ e = dispatchError cause := by
        rcases sent with cause | ⟨⟨⟩⟩
        · cases hResult
          exact ⟨cause, rfl, rfl⟩
        · cases hResult
      have hSilent : ∀ x ∈ report ++ [⟨.getGateways (r.rxInfo.map RxReport.gatewayId), known⟩],
          tellsData x.call = false := by
        rcases decodePayload_cases hReport with ⟨_, -, rfl, -⟩ | ⟨_, _, _, -, rfl, -⟩ | ⟨-, rfl, -⟩ <;>
          simp [tellsData, EventLogEntry.ofNotification, codecFault, Notification.eventType]
      rw [List.append_cons]
      exact .refused (n := dataUp r l (knownGateways known) payload object) hSilent rfl
    · cases hNone

theorem isLaterCall_of_isHandoverCall {c : Call} (h : isHandoverCall c = true) :
    isLaterCall c = true := by
  rcases c with _ | _ | _ | _ | _ | _ | _ | _ | n
  case send => cases n <;> first | rfl | cases h
  all_goals first | rfl | cases h

theorem failsAfter_of_ends (h : (uplink keks decoder r).Ends es (some (.error e))) :
    FailsAfter keks r e es := by
  rw [uplink_eq] at h
  rcases ends_bind_iff.mp h with ⟨l, found, rest, rfl, hFound, hHandover⟩ | ⟨e', hFound, hError⟩ |
    ⟨-, hNone⟩
  · cases approaches_of_ends hFound with
    | @joined tx time d a join answer _ hTx hJoin hResult =>
      -- the look-up of the session and the handover are what comes after the join
      have hCalls := Program.CallsOnly.ends (handover_callsOnly decoder r l) hHandover
      have hLate : FailsAfter keks r e (⟨.now, time⟩ ::
          ⟨.updateDevice r.devEui (.markSeen time), .ok (some d)⟩ ::
          ⟨.getApplication d.applicationId, .ok (some a)⟩ ::
          (join ++ (⟨.lastActivation d.devEui, answer⟩ :: rest))) := by
        refine .late (by simp [hTx]) hJoin (fun _ => rfl) ?_ ?_
        · exact List.forall_mem_cons.mpr
            ⟨rfl, fun x hx => isLaterCall_of_isHandoverCall (hCalls x hx)⟩
        · exact (handover_refuses hHandover).cons rfl
      rw [List.append_cons] at hLate
      exact hLate
  · cases hError
    cases approaches_of_ends hFound with
    | rejected hTx => exact .rejected hTx
    | unseen hTx hMissing => exact .unseen hTx hMissing
    | unowned hTx hMissing => exact .unowned hTx hMissing
    | @halted time d a join _ hTx hJoin =>
      have hLate : FailsAfter keks r e (⟨.now, time⟩ ::
          ⟨.updateDevice r.devEui (.markSeen time), .ok (some d)⟩ ::
          ⟨.getApplication d.applicationId, .ok (some a)⟩ :: (join ++ [])) :=
        .late hTx hJoin (by simp) (by simp) (.silent (by simp))
      rw [List.append_nil] at hLate
      exact hLate
    | @joined tx time d a join answer _ hTx hJoin hResult =>
      exact .late (by simp [hTx]) hJoin (fun _ => rfl) (by simp [isLaterCall])
        (.silent (by simp [tellsData]))
  · cases hNone

/-! ## What a conversation says of its end -/

/-- Whether an uplink has got as far as a join of this device whose key is known: it has found the device
and its application, and the join has an envelope that opens. -/
structure ReachesJoin (met : Exchange → Prop) (keks : KekSet) (r : UplinkRequest) (d : Device)
    (context : ActivationContext) (appSKey : Aes128Key) : Prop where
  device : ∃ time, met ⟨.updateDevice r.devEui (.markSeen time), .ok (some d)⟩
  application : ∃ a, met ⟨.getApplication d.applicationId, .ok (some a)⟩
  carried : r.context = some context
  opened : ∃ envelope, context.appSKey = some envelope ∧ keks.resolve envelope = .ok appSKey

/-- A join whose key is known asks for its row. -/
theorem joinLeg_asks {d : Device} {a : Application} {context : ActivationContext}
    {envelope : KeyEnvelope} {appSKey : Aes128Key} {o : Option (Except ServiceError Unit)}
    (hEnvelope : context.appSKey = some envelope) (hKey : keks.resolve envelope = .ok appSKey)
    (h : (joinLeg keks d a (some context)).Ends es o) :
    ∃ answer rest, es = ⟨.createActivation d.devEui context.devAddr appSKey, answer⟩ :: rest := by
  obtain ⟨o', hActivate, -⟩ := ends_discard_iff.mp h
  unfold activate at hActivate
  simp only [hEnvelope] at hActivate
  rw [hKey] at hActivate
  obtain ⟨answer, rest, rfl, -⟩ := hActivate
  exact ⟨answer, rest, rfl⟩

theorem isEarlyCall_of_isLaterCall {c : Call} (h : isLaterCall c = true) : isEarlyCall c = false := by
  cases c <;> first | rfl | cases h

theorem isEarlyCall_of_isActivationCall {c : Call} (h : isActivationCall c = true) :
    isEarlyCall c = false := by
  cases c <;> first | rfl | cases h

/-- After its first three calls an uplink makes none of these kinds again. -/
theorem not_isEarlyCall {d : Device} {a : Application} {join rest : List Exchange}
    {o : Option (Except ServiceError Unit)} (hJoin : (joinLeg keks d a r.context).Ends join o)
    (hLater : ∀ x ∈ rest, isLaterCall x.call = true) :
    ∀ x ∈ join ++ rest, isEarlyCall x.call = false := by
  have hCalls := Program.CallsOnly.ends (joinLeg_callsOnly keks d a r.context) hJoin
  intro x hx
  rcases List.mem_append.mp hx with hx | hx
  · exact isEarlyCall_of_isActivationCall (hCalls x hx)
  · exact isEarlyCall_of_isLaterCall (hLater x hx)

theorem updated?_of_not_isEarlyCall {x : Exchange} (h : isEarlyCall x.call = false) :
    x.updated? = none := by
  obtain ⟨c, answer⟩ := x
  cases c <;> first | rfl | cases h

theorem created?_of_isLaterCall {x : Exchange} (h : isLaterCall x.call = true) :
    x.created? = none := by
  obtain ⟨c, answer⟩ := x
  cases c <;> first | rfl | cases h

namespace FailsAfter

/-- A failed uplink has updated no device and stored no activation, or its second call has updated its
device and no call after that has updated one. -/
theorem update_cases (h : FailsAfter keks r e es) :
    (es.filterMap Exchange.updated? = [] ∧ es.filterMap Exchange.created? = [] ∧
      ∀ time d, ⟨.updateDevice r.devEui (.markSeen time), .ok (some d)⟩ ∉ es) ∨
    ∃ time d rest,
      es = ⟨.now, time⟩ :: ⟨.updateDevice r.devEui (.markSeen time), .ok (some d)⟩ :: rest ∧
      ∀ x ∈ rest, x.updated? = none := by
  cases h with
  | rejected hTx => exact Or.inl ⟨rfl, rfl, by simp⟩
  | @unseen time answer hTx hMissing =>
    rcases answer with e | _ | d
    · exact Or.inl ⟨rfl, rfl, by simp⟩
    · exact Or.inl ⟨rfl, rfl, by simp⟩
    · cases hMissing
  | @unowned time d answer hTx hMissing =>
    exact Or.inr ⟨time, d, _, rfl, by simp [Exchange.updated?]⟩
  | @late time d a join rest o hTx hJoin hOver hLater hData =>
    refine Or.inr ⟨time, d, _, rfl, List.forall_mem_cons.mpr ⟨rfl, fun x hx => ?_⟩⟩
    exact updated?_of_not_isEarlyCall (not_isEarlyCall hJoin hLater x hx)

/-- The exchanges of a failed uplink that has got as far as its join. -/
theorem created?_late {time : Time.Instant} {d : Device} {a : Application} {join rest : List Exchange}
    (hLater : ∀ x ∈ rest, isLaterCall x.call = true) :
    (⟨.now, time⟩ :: ⟨.updateDevice r.devEui (.markSeen time), .ok (some d)⟩ ::
      ⟨.getApplication d.applicationId, .ok (some a)⟩ :: (join ++ rest)).filterMap Exchange.created? =
      join.filterMap Exchange.created? := by
  have hRest : rest.filterMap Exchange.created? = [] :=
    List.filterMap_eq_nil_iff.mpr fun x hx => created?_of_isLaterCall (hLater x hx)
  show (join ++ rest).filterMap Exchange.created? = _
  rw [List.filterMap_append, hRest, List.append_nil]

/-- A failed uplink has stored no activation and told of no join, or it has got as far as its join and
stored one. -/
theorem created_cases (h : FailsAfter keks r e es) :
    (es.filterMap Exchange.created? = [] ∧ ∀ n answer, ⟨.send (.join n), answer⟩ ∉ es) ∨
    ∃ d context appSKey own, ReachesJoin (· ∈ es) keks r d context appSKey ∧
      ⟨.createActivation d.devEui context.devAddr appSKey, .ok own⟩ ∈ es ∧
      es.filterMap Exchange.created? = [own] := by
  cases h with
  | rejected hTx => exact Or.inl ⟨rfl, by simp⟩
  | unseen hTx hMissing => exact Or.inl ⟨rfl, by simp⟩
  | unowned hTx hMissing => exact Or.inl ⟨rfl, by simp⟩
  | @late time d a join rest o hTx hJoin hOver hLater hData =>
    rw [created?_late hLater]
    -- after its join an uplink tells of no other
    have hRest : ∀ n answer, ⟨.send (.join n), answer⟩ ∉ rest := by
      intro n answer hx
      cases hLater _ hx
    rcases joinLeg_cases hJoin with ⟨rfl, -⟩ | ⟨context, envelope, appSKey, hContext, hEnvelope, hKey,
      ⟨cause, rfl, -⟩ | ⟨own, logged, sent, rfl, -⟩⟩
    · exact Or.inl ⟨rfl, by simpa using hRest⟩
    · exact Or.inl ⟨rfl, by simpa using hRest⟩
    · refine Or.inr ⟨d, context, appSKey, own, ?_, by simp, rfl⟩
      exact ⟨⟨time, by simp⟩, ⟨a, by simp⟩, hContext, envelope, hEnvelope, hKey⟩

/-- The device and the application that an uplink has found on its way to a join are those of its join. -/
theorem late_of_reachesJoin {d : Device} {context : ActivationContext} {appSKey : Aes128Key}
    (h : FailsAfter keks r e es) (hReaches : ReachesJoin (· ∈ es) keks r d context appSKey) :
    ∃ time a join rest o, (joinLeg keks d a r.context).Ends join o ∧
      es = ⟨.now, time⟩ :: ⟨.updateDevice r.devEui (.markSeen time), .ok (some d)⟩ ::
        ⟨.getApplication d.applicationId, .ok (some a)⟩ :: (join ++ rest) := by
  obtain ⟨⟨time, hDevice⟩, ⟨a, hApplication⟩, -, -⟩ := hReaches
  cases h with
  | rejected hTx => cases hDevice
  | @unseen time' answer hTx hMissing =>
    simp only [List.mem_cons, List.not_mem_nil, or_false] at hDevice
    rcases hDevice with hDevice | hDevice
    · cases hDevice
    · cases hDevice
      cases hMissing
  | @unowned time' d' answer hTx hMissing =>
    -- an application that was found is not missing
    rcases answer with e | _ | a'
    · simp at hApplication
    · simp at hApplication
    · cases hMissing
  | @late time' d' a' join rest o hTx hJoin hOver hLater hData =>
    have hFound : isEarlyCall (.updateDevice r.devEui (.markSeen time)) = true := rfl
    simp only [List.mem_cons] at hDevice
    rcases hDevice with hDevice | hDevice | hDevice | hDevice
    · cases hDevice
    · cases hDevice
      exact ⟨time, a', join, rest, o, hJoin, rfl⟩
    · cases hDevice
    · rw [not_isEarlyCall hJoin hLater _ hDevice] at hFound
      cases hFound

/-- An uplink that has got as far as a join whose key is known has asked for its row. -/
theorem asks_of_reachesJoin {d : Device} {context : ActivationContext} {appSKey : Aes128Key}
    (h : FailsAfter keks r e es) (hReaches : ReachesJoin (· ∈ es) keks r d context appSKey) :
    ∃ answer, ⟨.createActivation d.devEui context.devAddr appSKey, answer⟩ ∈ es := by
  obtain ⟨time, a, join, rest, o, hJoin, rfl⟩ := h.late_of_reachesJoin hReaches
  obtain ⟨envelope, hEnvelope, hKey⟩ := hReaches.opened
  rw [hReaches.carried] at hJoin
  obtain ⟨answer, later, rfl⟩ := joinLeg_asks hEnvelope hKey hJoin
  exact ⟨answer, by simp⟩

/-- A join whose key is not known is where its uplink fails, before anything was stored or told. -/
theorem quiet_of_keyless {context : ActivationContext} (h : FailsAfter keks r e es)
    (hContext : r.context = some context)
    (hKeyless : ∀ envelope appSKey, context.appSKey = some envelope →
      keks.resolve envelope ≠ .ok appSKey) :
    es.filterMap Exchange.effect? = [] ∧ es.filterMap Exchange.created? = [] := by
  cases h with
  | rejected hTx => exact ⟨rfl, rfl⟩
  | unseen hTx hMissing => exact ⟨rfl, rfl⟩
  | unowned hTx hMissing => exact ⟨rfl, rfl⟩
  | @late time d a join rest o hTx hJoin hOver hLater hData =>
    rcases joinLeg_cases hJoin with ⟨rfl, ⟨hNone, -⟩ | ⟨cause, hError⟩⟩ |
      ⟨context', envelope, appSKey, hContext', hEnvelope, hKey, -⟩
    · rw [hContext] at hNone
      cases hNone
    · -- the join has failed, so that nothing comes after it
      have hRest : rest = [] := by
        by_contra hSome
        rw [hOver hSome] at hError
        cases hError
      rw [hRest]
      exact ⟨rfl, rfl⟩
    · rw [hContext] at hContext'
      cases hContext'
      exact absurd hKey (hKeyless envelope appSKey hEnvelope)

/-- A failed uplink has told of data only if they were refused, and that is why it has failed. -/
theorem refuses_data {x : Exchange} (h : FailsAfter keks r e es) (hx : x ∈ es)
    (hTells : tellsData x.call = true) :
    ∃ n cause, ⟨.send (.dataUp n), .error cause⟩ ∈ es ∧ e = dispatchError cause ∧
      (x = ⟨.send (.dataUp n), .error cause⟩ ∨
        ∃ logged, x = ⟨.log n.origin.devEui (.ofNotification (.dataUp n)), logged⟩) := by
  -- whatever comes before the handover tells of no data
  have hSilent : ∀ {early : List Exchange}, (∀ y ∈ early, tellsData y.call = false) → x ∉ early := by
    intro early hEarly hx
    rw [hEarly x hx] at hTells
    cases hTells
  cases h with
  | rejected hTx => cases hx
  | unseen hTx hMissing => exact absurd hx (hSilent (by simp [tellsData]))
  | unowned hTx hMissing => exact absurd hx (hSilent (by simp [tellsData]))
  | @late time d a join rest o hTx hJoin hOver hLater hData =>
    have hJoinSilent : ∀ y ∈ join, tellsData y.call = false := by
      rcases joinLeg_cases hJoin with ⟨rfl, -⟩ | ⟨_, _, _, -, -, -, ⟨_, rfl, -⟩ | ⟨_, _, _, rfl, -⟩⟩ <;>
        simp [tellsData, joined, EventLogEntry.ofNotification, Notification.eventType]
    have hFirst : ∀ y ∈ ⟨.now, time⟩ :: ⟨.updateDevice r.devEui (.markSeen time), .ok (some d)⟩ ::
        ⟨.getApplication d.applicationId, .ok (some a)⟩ :: join, tellsData y.call = false := by
      simpa [tellsData] using hJoinSilent
    have hx : x ∈ (⟨.now, time⟩ :: ⟨.updateDevice r.devEui (.markSeen time), .ok (some d)⟩ ::
        ⟨.getApplication d.applicationId, .ok (some a)⟩ :: join) ++ rest := hx
    rcases List.mem_append.mp hx with hx | hx
    · exact absurd hx (hSilent hFirst)
    cases hData with
    | silent hData => exact absurd hx (hSilent hData)
    | @refused before n logged cause hBefore hError =>
      refine ⟨n, cause, by simp, hError, ?_⟩
      rcases List.mem_append.mp hx with hx | hx
      · exact absurd hx (hSilent hBefore)
      · simp only [List.mem_cons, List.not_mem_nil, or_false] at hx
        rcases hx with rfl | rfl
        · exact Or.inr ⟨logged, rfl⟩
        · exact Or.inl rfl

end FailsAfter

/-! ## The law -/

/-- What an uplink that fails with an error leaves behind when it leads from a world to another, by the
calls that it has met. -/
structure Footprint (met : Exchange → Prop) (keks : KekSet) (r : UplinkRequest) (e : ServiceError)
    (w w' : World σ) : Prop where
  /-- Without its transmission an uplink makes no call. -/
  rejected : r.txInfo = none → (∀ x, ¬met x) ∧ w' = w
  applications : w'.store.applications = w.store.applications
  gateways : w'.store.gateways = w.store.gateways
  /-- Without an update that has found the device the store is as it was. -/
  unseen : (∀ time d, ¬met ⟨.updateDevice r.devEui (.markSeen time), .ok (some d)⟩) → w'.store = w.store
  /-- With one the row of the device has the later of its old time and the clock reading, and nothing
  else becomes of the devices. -/
  seen : ∀ time d, met ⟨.updateDevice r.devEui (.markSeen time), .ok (some d)⟩ →
    met ⟨.now, time⟩ ∧ ∃ row, w.store.getDevice r.devEui = some row ∧
      d = { row with lastSeenAt := d.lastSeenAt } ∧
      IsLatest d.lastSeenAt (row.lastSeenAt.toList ++ [time]) ∧
      w'.store.devices = w.store.devices.insert r.devEui d
  /-- An uplink that gets as far as a join whose key is known asks for its row. -/
  asks : ∀ d context appSKey, ReachesJoin met keks r d context appSKey →
    ∃ answer, met ⟨.createActivation d.devEui context.devAddr appSKey, answer⟩
  /-- An activation is appended exactly if such a row was asked for and stored. -/
  stored : ∀ own, w'.store.activations = w.store.activations ++ [own] ↔
    ∃ d context appSKey, ReachesJoin met keks r d context appSKey ∧
      met ⟨.createActivation d.devEui context.devAddr appSKey, .ok own⟩ ∧
      own.devEui = d.devEui ∧ own.devAddr = context.devAddr ∧ own.appSKey = appSKey
  /-- At most one activation is appended. -/
  unstored : (∀ own, w'.store.activations ≠ w.store.activations ++ [own]) →
    w'.store.activations = w.store.activations
  /-- A join whose key is not known leaves the activations as they were, and tells of nothing. -/
  keyless : ∀ context, r.context = some context →
    (∀ envelope appSKey, context.appSKey = some envelope → keks.resolve envelope ≠ .ok appSKey) →
    w'.store.activations = w.store.activations ∧ w'.effects = w.effects
  /-- A join that the integration does not take keeps its row. -/
  refused : ∀ n cause, met ⟨.send (.join n), .error cause⟩ →
    ∃ own, w'.store.activations = w.store.activations ++ [own]
  /-- Data are told of only if they are refused, and that is the error. -/
  data : ∀ x, met x → tellsData x.call = true →
    ∃ n cause, met ⟨.send (.dataUp n), .error cause⟩ ∧ e = dispatchError cause ∧
      (x = ⟨.send (.dataUp n), .error cause⟩ ∨
        ∃ logged, x = ⟨.log n.origin.devEui (.ofNotification (.dataUp n)), logged⟩)

/-- An update that no other follows sets the row of its device to the later of its old time and the
clock reading. -/
theorem row_of_seen {time : Time.Instant} {d : Device} {rest : List Exchange}
    (hPlays : World.Plays k w (⟨.now, time⟩ ::
      ⟨.updateDevice r.devEui (.markSeen time), .ok (some d)⟩ :: rest) w')
    (hRest : ∀ x ∈ rest, x.updated? = none) :
    ∃ row, w.store.getDevice r.devEui = some row ∧ d = { row with lastSeenAt := d.lastSeenAt } ∧
      IsLatest d.lastSeenAt (row.lastSeenAt.toList ++ [time]) ∧
      w'.store.devices = w.store.devices.insert r.devEui d := by
  have hDevices := hPlays.devices
  obtain ⟨u, hNow, hPlays⟩ := World.plays_cons_iff.mp hPlays
  obtain ⟨v, hUpdate, -⟩ := World.plays_cons_iff.mp hPlays
  -- the clock is no matter to the store
  have hClock : u.store = w.store := by
    obtain ⟨-, rfl⟩ := Prod.mk.inj hNow
    rfl
  obtain ⟨row, hRow, hSeen⟩ := World.answer_updateDevice_ok hUpdate
  have hSeen : d = row.markSeen time := hSeen
  refine ⟨row, hClock ▸ hRow, ?_, ?_, ?_⟩
  · rw [hSeen]
    exact Device.markSeen_eq row time
  · have hCombines := Device.combines_applyAll row [.markSeen time]
    rw [hSeen]
    exact hCombines.lastSeenAt
  · rw [hDevices]
    show (w.store.devices.insert r.devEui d).insertAll (rest.filterMap Exchange.updated?) = _
    rw [List.filterMap_eq_nil_iff.mpr hRest]
    rfl

/-- An activation that was stored has the fields that it was asked for with. -/
theorem stored_iff (hFails : FailsAfter keks r e es) (hPlays : World.Plays k w es w')
    (own : Activation) :
    w'.store.activations = w.store.activations ++ [own] ↔
      ∃ d context appSKey, ReachesJoin (· ∈ es) keks r d context appSKey ∧
        ⟨.createActivation d.devEui context.devAddr appSKey, .ok own⟩ ∈ es ∧
        own.devEui = d.devEui ∧ own.devAddr = context.devAddr ∧ own.appSKey = appSKey := by
  rw [hPlays.activations, List.append_cancel_left_eq]
  constructor
  · -- the one create that was answered has added the row
    intro hRows
    rcases hFails.created_cases with ⟨hNone, -⟩ | ⟨d, context, appSKey, own', hReaches, hCreated, hOwn⟩
    · rw [hNone] at hRows
      cases hRows
    · rw [hOwn] at hRows
      obtain rfl := List.singleton_inj.mp hRows
      obtain ⟨-, u, -, hAnswer⟩ := hPlays.answered hCreated
      exact ⟨d, context, appSKey, hReaches, hCreated, World.answer_createActivation_ok hAnswer⟩
  · rintro ⟨d, context, appSKey, -, hCreated, -⟩
    have hMember : own ∈ es.filterMap Exchange.created? :=
      List.mem_filterMap.mpr ⟨_, hCreated, rfl⟩
    rcases hFails.created_cases with ⟨hNone, -⟩ | ⟨_, _, _, own', -, -, hOwn⟩
    · rw [hNone] at hMember
      cases hMember
    · rw [hOwn] at hMember ⊢
      rw [List.mem_singleton.mp hMember]

theorem footprint_of_failsAfter (hFails : FailsAfter keks r e es) (hPlays : World.Plays k w es w') :
    Footprint (· ∈ es) keks r e w w' := by
  have hActivations := hPlays.activations
  refine {
    rejected := ?_
    applications := hPlays.applications
    gateways := hPlays.gateways
    unseen := ?_
    seen := ?_
    asks := fun d context appSKey => hFails.asks_of_reachesJoin
    stored := stored_iff hFails hPlays
    unstored := ?_
    keyless := ?_
    refused := ?_
    data := fun x => hFails.refuses_data }
  · -- only a request without transmission data is turned away before the first call
    intro hTx
    cases hFails with
    | rejected _ => exact ⟨by simp, hPlays⟩
    | unseen hSome => exact absurd hTx hSome
    | unowned hSome => exact absurd hTx hSome
    | late hSome => exact absurd hTx hSome
  · -- without a device the update changed no row
    intro hUnseen
    rcases hFails.update_cases with ⟨hRows, hCreated, -⟩ | ⟨time, d, rest, rfl, -⟩
    · rw [hPlays.store, hRows, hCreated, List.append_nil]
      rfl
    · exact absurd (by simp) (hUnseen time d)
  · intro time d hMet
    rcases hFails.update_cases with ⟨-, -, hNone⟩ | ⟨time', d', rest, rfl, hRest⟩
    · exact absurd hMet (hNone time d)
    · -- the update that was met is the second call
      have hSecond : time = time' ∧ d = d' := by
        simp only [List.mem_cons] at hMet
        rcases hMet with hMet | hMet | hMet
        · cases hMet
        · cases hMet
          exact ⟨rfl, rfl⟩
        · cases hRest _ hMet
      obtain ⟨rfl, rfl⟩ := hSecond
      exact ⟨by simp, row_of_seen hPlays hRest⟩
  · -- rows of activations are only added, by a create
    intro hNone
    rcases hFails.created_cases with ⟨hRows, -⟩ | ⟨_, _, _, own, -, -, hRows⟩
    · rw [hActivations, hRows, List.append_nil]
    · rw [hRows] at hActivations
      exact absurd hActivations (hNone own)
  · -- the key is opened before anything is stored or told
    intro context hContext hKeyless
    obtain ⟨hEffects, hRows⟩ := hFails.quiet_of_keyless hContext hKeyless
    rw [hActivations, hPlays.effects, hEffects, hRows, List.append_nil, List.append_nil]
    exact ⟨rfl, rfl⟩
  · intro n cause hMet
    rcases hFails.created_cases with ⟨-, hSilent⟩ | ⟨_, _, _, own, -, -, hRows⟩
    · exact absurd hMet (hSilent n _)
    · exact ⟨own, by rw [hActivations, hRows]⟩

/-- Whatever an uplink fails of, in any world and under any conditions, it leaves behind no more than
this. -/
theorem failed_uplink_leaves
    (h : w.run k (uplink keks decoder r).program = (some (.error e), w')) :
    Footprint (w.Meets k (uplink keks decoder r).program) keks r e w w' := by
  obtain ⟨es, hEnds, hPlays⟩ := World.run_eq_iff.mp h
  have hMeets : w.Meets k (uplink keks decoder r).program = (· ∈ es) :=
    funext fun x => propext (World.meets_iff hEnds hPlays)
  rw [hMeets]
  exact footprint_of_failsAfter (failsAfter_of_ends hEnds) hPlays

namespace Sample

/-- A join whose key is not wrapped. -/
def unwrapped : ActivationContext := ⟨.zero .devAddr, some ⟨(key 1).bytes, ""⟩⟩

/-- The run of an uplink whose join the integration does not take. -/
def refusedJoin : Option (Except ServiceError Unit) × World Faults :=
  (world [] ⟨[⟨.send .join, .integrationDispatch "down", none⟩], []⟩).run conditions
    (uplink .empty .ofCodec (request (some unwrapped))).program

end Sample

theorem failed_uplink_leaves_sample :
    Sample.refusedJoin.1 = some (.error (.integrationDispatch "down")) ∧
      ∃ own d, Sample.refusedJoin.2.store.activations = [own] ∧
        own.devAddr = Sample.unwrapped.devAddr ∧
        Sample.refusedJoin.2.store.devices = (Sample.store []).devices.insert Sample.device.devEui d := by
  have hFails : Sample.refusedJoin.1 = some (.error (.integrationDispatch "down")) := rfl
  have hLeaves := failed_uplink_leaves (Prod.ext hFails rfl : Sample.refusedJoin = (_, _))
  obtain ⟨own, hOwn⟩ : ∃ own, Sample.refusedJoin.2.store.activations = [own] := ⟨_, rfl⟩
  obtain ⟨d, context, appSKey, hReaches, -, -, hAddr, -⟩ := (hLeaves.stored own).mp hOwn
  obtain ⟨time, hSeen⟩ := hReaches.device
  obtain ⟨-, row, -, -, -, hDevices⟩ := hLeaves.seen time d hSeen
  refine ⟨hFails, own, d, hOwn, ?_, hDevices⟩
  rw [hAddr, ← Option.some.inj hReaches.carried]

end Lorawan.Service
