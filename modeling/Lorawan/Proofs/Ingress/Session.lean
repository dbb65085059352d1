import Lorawan.Proofs.Ingress.Interleaving
import Lorawan.Proofs.Service.Delivery

/-!
# The session of a join

An uplink that carries a join stores a new activation and then looks up the session of its device.  The
two are separate calls: other handlers may store activations in between, and activations from before may
be dated later than the clock now shows.  So the payload is opened under the newest activation that the
store holds at the look-up.  The uplink's own activation is among those, and it is the session whenever
no other activation of the device is as new (`delivers_newest_session`).
-/

namespace Lorawan

namespace Ingress

open Service

variable {σ : Type} {k : Conditions σ} {server : Server} {r : UplinkRequest}
  {context : ActivationContext} {envelope : KeyEnvelope} {appSKey : Aes128Key} {b : Batch σ}
  {number : Nat} {turns : List Nat} {n : DataUp} {next : Except ServiceError Unit → Program Outcome}

/-- An uplink that is about to hand over data has looked up its session in an earlier turn, and got past
its join before that. -/
theorem looked_up_session (hHandler : b.handlers[number]? = some (handler server (.uplink r)))
    (hSends : (b.play k turns).handlers[number]? = some (.call (.send (.dataUp n)) next)) :
    ∃ (looked rest : List Nat) (l : Located) (join : List Exchange),
      turns = looked ++ number :: rest ∧
      (b.play k looked).exchange? k number =
        some ⟨.lastActivation n.origin.devEui, .ok (some l.session)⟩ ∧
      (joinLeg server.keks l.device l.application r.context).Gives join () ∧
      (∀ e ∈ join, (number, e) ∈ b.trace k looked) ∧
      l.device.devEui = n.origin.devEui ∧
      FramePayload.decryptUplink l.session.appSKey l.session.devAddr r.fCnt r.data = .ok n.data := by
  obtain ⟨q, hq, hAfter⟩ := Batch.after_trace turns hHandler
  rw [hSends] at hq
  obtain rfl := Option.some.inj hq
  have hAsks : (uplink server.keks server.decoder r).Asks (Batch.own number (b.trace k turns))
      (.send (.dataUp n)) := asks_handler_iff.mp hAfter.asks
  obtain ⟨l, _, es, hOwn, hApproach, hData, hOrigin⟩ := uplink_asks_dataUp hAsks
  obtain ⟨-, time, join, rfl, hJoin⟩ := gives_approach_iff.mp hApproach
  have hEui : n.origin.devEui = l.device.devEui := by rw [hOrigin]; rfl
  -- the look-up of the session is a point of the conversation, hence of the trace, hence of the turns
  have hPoint : Batch.own number (b.trace k turns) =
      ([⟨.now, time⟩, ⟨.updateDevice r.devEui (.markSeen time), .ok (some l.device)⟩,
        ⟨.getApplication l.device.applicationId, .ok (some l.application)⟩] ++ join) ++
      ⟨.lastActivation l.device.devEui, .ok (some l.session)⟩ :: es := by
    rw [hOwn]
    simp
  obtain ⟨before, after, hTrace, hBefore⟩ := Batch.own_eq_append_cons hPoint
  obtain ⟨looked, rest, hTurns, hLooked, hExchange⟩ := Batch.trace_eq_append_cons hTrace
  refine ⟨looked, rest, l, join, hTurns, hEui ▸ hExchange, hJoin, ?_, hEui.symm, hData⟩
  intro e he
  rw [hLooked, ← Batch.mem_own_iff, hBefore]
  exact List.mem_append_right _ he

/-- Whether a handler has stored this activation within some turns, as it asked for. -/
structure HasJoined (k : Conditions σ) (b : Batch σ) (number : Nat) (turns : List Nat)
    (id : Eui64) (addr : DevAddr) (key : Aes128Key) (own : Activation) : Prop where
  exchange : (number, ⟨.createActivation id addr key, .ok own⟩) ∈ b.trace k turns
  devEui : own.devEui = id
  devAddr : own.devAddr = addr
  appSKey : own.appSKey = key
  stored : own ∈ (b.play k turns).world.store.activations

theorem hasJoined_of_mem {id : Eui64} {addr : DevAddr} {key : Aes128Key} {own : Activation}
    (h : (number, ⟨.createActivation id addr key, .ok own⟩) ∈ b.trace k turns) :
    HasJoined k b number turns id addr key own := by
  have hPlays := Batch.plays_trace k b turns
  have hCreated : ⟨.createActivation id addr key, .ok own⟩ ∈ (b.trace k turns).map Prod.snd :=
    List.mem_map_of_mem h
  obtain ⟨-, u, -, hAnswer⟩ := hPlays.answered hCreated
  obtain ⟨hDevice, hAddr, hKey⟩ := World.answer_createActivation_ok hAnswer
  -- the activations of the store are those of the start and those that the trace has created
  have hStored : own ∈ (b.play k turns).world.store.activations := by
    rw [hPlays.activations]
    exact List.mem_append_right _ (List.mem_filterMap.mpr ⟨_, hCreated, rfl⟩)
  exact ⟨h, hDevice, hAddr, hKey, hStored⟩

/-- Whatever else goes on in a batch, an uplink with a join hands over its data as they open under the
newest activation of the device at the moment of the look-up.  By then the store has got the activation
of this very join; if no other activation of the device is as new, the data were opened under its key and
address. -/
theorem delivers_newest_session
    (hHandler : b.handlers[number]? = some (handler server (.uplink r)))
    (hContext : r.context = some context) (hEnvelope : context.appSKey = some envelope)
    (hKey : server.keks.resolve envelope = .ok appSKey)
    (hSends : (b.play k turns).handlers[number]? = some (.call (.send (.dataUp n)) next)) :
    ∃ (looked rest : List Nat) (own session : Activation),
      turns = looked ++ number :: rest ∧
      (b.play k looked).exchange? k number =
        some ⟨.lastActivation n.origin.devEui, .ok (some session)⟩ ∧
      HasJoined k b number looked n.origin.devEui context.devAddr appSKey own ∧
      (b.play k looked).world.store.IsNewest n.origin.devEui session ∧
      FramePayload.decryptUplink session.appSKey session.devAddr r.fCnt r.data = .ok n.data ∧
      ((∀ a ∈ (b.play k looked).world.store.activations, a.devEui = n.origin.devEui →
          own.le a = true → a = own) →
        FramePayload.decryptUplink appSKey context.devAddr r.fCnt r.data = .ok n.data) := by
  obtain ⟨looked, rest, l, join, hTurns, hExchange, hJoin, hJoined, hEui, hData⟩ :=
    looked_up_session hHandler hSends
  rw [hContext] at hJoin
  obtain ⟨envelope', appSKey', own, logged, sent, hEnvelope', hKey', rfl⟩ := gives_joinLeg hJoin
  obtain rfl := Option.some.inj (hEnvelope.symm.trans hEnvelope')
  obtain rfl := Except.ok.inj (hKey.symm.trans hKey')
  have hOwn : HasJoined k b number looked n.origin.devEui context.devAddr appSKey own :=
    hasJoined_of_mem (hEui ▸ hJoined _ List.mem_cons_self)
  have hNewest : (b.play k looked).world.store.IsNewest n.origin.devEui l.session := by
    have hLookUp : World.answer k (.lastActivation n.origin.devEui) (b.play k looked).world =
        (.ok (some l.session), _) := Prod.ext (Batch.answer_of_exchange? hExchange).symm rfl
    exact Store.lastActivation_newest (World.answer_lastActivation_ok hLookUp).1.symm
  refine ⟨looked, rest, own, l.session, hTurns, hExchange, hOwn, hNewest, hData, ?_⟩
  -- the session that was found is no older than the join's own, so it is that if it is alone there
  intro hAlone
  have hOwnOlder : own.le l.session = true := hNewest.newest own hOwn.stored hOwn.devEui
  have hSession : l.session = own := hAlone l.session hNewest.mem hNewest.belongs hOwnOlder
  rw [hSession, hOwn.appSKey, hOwn.devAddr] at hData
  exact hData

namespace Sample

/-- A join whose key is not wrapped. -/
def join : ActivationContext := ⟨.zero .devAddr, some ⟨(Sample.key 1).bytes, ""⟩⟩

/-- A batch of one uplink with a join, whose device has a session of this age. -/
def joinBatch (seconds : Int) : Batch Faults :=
  ⟨[handler ⟨.empty, .ofCodec⟩ (.uplink (Sample.request (some join)))],
    Sample.world [Sample.session seconds] ⟨[], []⟩⟩

/-- The same join, and another uplink of the device. -/
def sharedBatch : Batch Faults :=
  ⟨[handler ⟨.empty, .ofCodec⟩ (.uplink (Sample.request (some join))),
    handler ⟨.empty, .ofCodec⟩ (.uplink (Sample.request none))],
    Sample.world [Sample.session 0] ⟨[], []⟩⟩

/-- Turns in which the other uplink goes on between the join and its look-up. -/
def sharedTurns : List Nat := [0, 0, 0, 0, 1, 1, 1, 1, 0, 0, 0, 0, 0]

/-- The session that the join begins. -/
def joined : Activation := ⟨2, Sample.device.devEui, join.devAddr, Sample.key 1, ⟨1000, 0⟩⟩

end Sample

/-- The join's own session is the newest, whatever turns the other uplink takes: the data open under its
key and address. -/
theorem delivers_newest_session_sample :
    ∃ n next, (Sample.sharedBatch.play Sample.conditions Sample.sharedTurns).handlers[0]? =
        some (.call (.send (.dataUp n)) next) ∧
      FramePayload.decryptUplink (Sample.key 1) Sample.join.devAddr 0 [1, 2, 3] = .ok n.data := by
  have hHandler : Sample.sharedBatch.handlers[0]? =
      some (handler ⟨.empty, .ofCodec⟩ (.uplink (Sample.request (some Sample.join)))) := rfl
  have hKey : KekSet.empty.resolve ⟨(Sample.key 1).bytes, ""⟩ = .ok (Sample.key 1) := rfl
  -- up to every turn, the store has the session from before and maybe that of the join
  have hStored : ∀ m ≤ Sample.sharedTurns.length,
      ∀ a ∈ (Sample.sharedBatch.play Sample.conditions
        (Sample.sharedTurns.take m)).world.store.activations, a = Sample.session 0 ∨ a = Sample.joined := by
    decide +kernel
  obtain ⟨n, next, hSends⟩ : ∃ n next,
      (Sample.sharedBatch.play Sample.conditions Sample.sharedTurns).handlers[0]? =
        some (.call (.send (.dataUp n)) next) := ⟨_, _, rfl⟩
  obtain ⟨looked, rest, own, session, hTurns, -, hOwn, -, -, hOpens⟩ :=
    delivers_newest_session hHandler rfl rfl hKey hSends
  have hLooked : looked = Sample.sharedTurns.take looked.length := by
    rw [hTurns, List.take_left]
  have hLength : looked.length ≤ Sample.sharedTurns.length := by
    rw [hTurns, List.length_append]
    exact Nat.le_add_right _ _
  have hTwo := hStored looked.length hLength
  rw [← hLooked] at hTwo
  obtain rfl : own = Sample.joined := by
    refine (hTwo own hOwn.stored).resolve_left ?_
    rintro rfl
    exact absurd hOwn.appSKey (by decide)
  refine ⟨n, next, hSends, hOpens fun a ha _ hNewer => (hTwo a ha).resolve_left ?_⟩
  rintro rfl
  exact absurd hNewer (by decide)

/-- Under a session that is dated later than the clock shows, a join is followed by data that do not open
under its key. -/
theorem join_not_opened_under_its_key :
    ∃ n next, ((Sample.joinBatch 5000).play Sample.conditions (List.replicate 9 0)).handlers[0]? =
        some (.call (.send (.dataUp n)) next) ∧
      KekSet.empty.resolve ⟨(Sample.key 1).bytes, ""⟩ = .ok (Sample.key 1) ∧
      FramePayload.decryptUplink (Sample.key 1) Sample.join.devAddr 0 [1, 2, 3] ≠ .ok n.data := by
  refine ⟨_, _, rfl, rfl, ?_⟩
  intro h
  exact absurd (Except.ok.inj h) (by decide +kernel)

end Ingress

end Lorawan
