import Lorawan.Proofs.Ingress.Session

/-!
# Joins under redelivery

A message that is given back is carried out again from its start, and nothing tells a delivery what the
ones before it have done.  A join that was stored and told is stored and told again.

So a message adds as many activations as it makes attempts to tell of its join, and at most one for each
delivery (`redelivered_joins`).  There is at most one in all if no delivery but the last one has got as
far as telling of the join.
-/

namespace Lorawan

/-! ## Joins in the effects -/

/-- The join that the integration was to be told of, if the effect is that. -/
def Effect.join? : Effect → Option JoinNotification
  | .sent (.join n) _ => some n
  | _ => none

/-- The joins that the integration was to be told of so far, whether it took the news or not. -/
def World.joins (w : World σ) : List JoinNotification := w.effects.filterMap Effect.join?

/-- The join that an exchange was to tell of. -/
def Exchange.join? (e : Exchange) : Option JoinNotification := e.effect?.bind Effect.join?

theorem World.Plays.joins {k : Conditions σ} {w w' : World σ} {es : List Exchange}
    (h : World.Plays k w es w') : w'.joins = w.joins ++ es.filterMap Exchange.join? :=
  h.filterMap_effects Effect.join?

namespace Service

variable {keks : KekSet} {decoder : UplinkDecoder} {r : UplinkRequest} {l : Located}

/-- Whether a call stores an activation or tells of a join. -/
def makesJoin : Call → Bool
  | .createActivation .. | .send (.join _) => true
  | _ => false

theorem makesJoin_of_isLookup {c : Call} (h : isLookup c = true) : makesJoin c = false := by
  cases c <;> first | rfl | cases h

theorem join?_of_makesJoin {e : Exchange} (h : makesJoin e.call = false) :
    e.join? = none ∧ e.created? = none := by
  obtain ⟨c, a⟩ := e
  rcases c with _ | _ | _ | _ | _ | _ | _ | _ | n
  case createActivation => cases h
  case send => cases n <;> first | exact ⟨rfl, rfl⟩ | cases h
  all_goals exact ⟨rfl, rfl⟩

theorem makesJoin_of_isHandoverCall {c : Call} (h : isHandoverCall c = true) :
    makesJoin c = false := by
  rcases c with _ | _ | _ | _ | _ | _ | _ | _ | n
  case createActivation => cases h
  case send => cases n <;> first | rfl | cases h
  all_goals rfl

/-- The whole conversation of an uplink, handover included, is quiet around its join. -/
theorem uplink_around_join {es : List Exchange} {o : Option (Except ServiceError Unit)}
    (h : (uplink keks decoder r).Ends es o) : AroundJoin keks r (makesJoin · = false) es := by
  have hApproach {es₁ : List Exchange} {o' : Option (Except ServiceError Located)}
      (hEnds : (approach keks r).Ends es₁ o') : AroundJoin keks r (makesJoin · = false) es₁ :=
    (approach_around_join hEnds).mono fun _ => makesJoin_of_isLookup
  rw [uplink_eq] at h
  rcases ends_bind_iff.mp h with ⟨l, es₁, es₂, rfl, hFound, hHandover⟩ | ⟨e, h, -⟩ | ⟨h, -⟩
  · have hCalls := Program.CallsOnly.ends (handover_callsOnly decoder r l) hHandover
    exact (hApproach hFound).append fun e he => makesJoin_of_isHandoverCall (hCalls e he)
  · exact hApproach h
  · exact hApproach h

end Service

namespace Ingress

open Service

variable {σ : Type} {k : Conditions σ} {server : Server} {r : UplinkRequest} {subject : String}
  {payload : List UInt8} {w w' v : World σ}

/-! ## One delivery -/

/-- Whether an activation is one that the join of this uplink asks for, in a store where its device is
registered. -/
structure IsJoinOf (server : Server) (r : UplinkRequest) (s : Store) (a : Activation) : Prop where
  device : (s.getDevice r.devEui).map Device.devEui = some a.devEui
  context : ∃ context envelope, r.context = some context ∧ context.appSKey = some envelope ∧
    a.devAddr = context.devAddr ∧ server.keks.resolve envelope = .ok a.appSKey

/-- What some deliveries have added to a world: activations of this join, and as many attempts to tell
of it.  The device is registered as before. -/
structure AddsJoins (server : Server) (r : UplinkRequest) (w w' : World σ)
    (rows : List Activation) (sends : List JoinNotification) : Prop where
  registration : (w'.store.getDevice r.devEui).map Device.devEui =
    (w.store.getDevice r.devEui).map Device.devEui
  activations : w'.store.activations = w.store.activations ++ rows
  joins : w'.joins = w.joins ++ sends
  length_eq : rows.length = sends.length
  isJoin : ∀ a ∈ rows, IsJoinOf server r w.store a

/-- A row that was created in a conversation for the device that was updated there is one of the join. -/
theorem isJoinOf_of_created {es : List Exchange} {time : Time.Instant} {d : Device}
    {context : ActivationContext} {envelope : KeyEnvelope} {appSKey : Aes128Key} {own : Activation}
    (hPlays : World.Plays k w es w')
    (hUpdate : ⟨.updateDevice r.devEui (.markSeen time), .ok (some d)⟩ ∈ es)
    (hCreated : ⟨.createActivation d.devEui context.devAddr appSKey, .ok own⟩ ∈ es)
    (hContext : r.context = some context) (hEnvelope : context.appSKey = some envelope)
    (hKey : server.keks.resolve envelope = .ok appSKey) : IsJoinOf server r w.store own := by
  -- the row has the fields that it was asked for with
  obtain ⟨-, u, -, hStored⟩ := hPlays.answered hCreated
  obtain ⟨hDevice, hAddr, hOwnKey⟩ := World.answer_createActivation_ok hStored
  -- and the device it was asked for is the registered one
  obtain ⟨earlier, u', hEarlier, hUpdated⟩ := hPlays.answered hUpdate
  obtain ⟨row, hRow, hSeen⟩ := World.answer_updateDevice_ok hUpdated
  refine ⟨?_, context, envelope, hContext, hEnvelope, hAddr, hOwnKey ▸ hKey⟩
  rw [← hEarlier.devEui, hRow, hDevice, hSeen, Device.apply_devEui]
  rfl

/-- One delivery adds at most one activation, namely when it tells of its join. -/
theorem delivery_adds_joins (k : Conditions σ) (server : Server) (w : World σ)
    (hRequest : request? subject payload = some (.uplink r)) :
    ∃ rows sends, AddsJoins server r w (w.run k (route server subject payload)).2 rows sends ∧
      sends.length ≤ 1 := by
  rw [route_eq_handler hRequest, run_handler]
  obtain ⟨es, hEnds, hPlays⟩ := World.exists_plays k (server.handle (.uplink r)).program w
  obtain ⟨before, join, after, rfl, hOther, hJoin⟩ := uplink_around_join hEnds
  have hDevices := hPlays.devEui r.devEui
  have hRows := hPlays.activations
  have hSends := hPlays.joins
  -- only the calls of the join add rows and tell of joins
  rw [filterMap_around fun e he => (join?_of_makesJoin (hOther e he)).2] at hRows
  rw [filterMap_around fun e he => (join?_of_makesJoin (hOther e he)).1] at hSends
  rcases hJoin with rfl | ⟨time, d, a, o, hUpdate, hJoin⟩
  · exact ⟨[], [], ⟨hDevices, hRows, hSends, rfl, by simp⟩, Nat.zero_le 1⟩
  rcases joinLeg_cases hJoin with ⟨rfl, -⟩ | ⟨context, envelope, appSKey, hContext, hEnvelope, hKey,
    ⟨e, rfl, -⟩ | ⟨own, logged, sent, rfl, -⟩⟩
  · exact ⟨[], [], ⟨hDevices, hRows, hSends, rfl, by simp⟩, Nat.zero_le 1⟩
  · exact ⟨[], [], ⟨hDevices, hRows, hSends, rfl, by simp⟩, Nat.zero_le 1⟩
  -- the join was stored, and was told of once
  refine ⟨[own], _, ⟨hDevices, hRows, hSends, rfl, ?_⟩, Nat.le_refl 1⟩
  intro a ha
  obtain rfl := List.mem_singleton.mp ha
  refine isJoinOf_of_created hPlays (List.mem_append_left after (List.mem_append_left _ hUpdate)) ?_
    hContext hEnvelope hKey
  exact List.mem_append_left after (List.mem_append_right before List.mem_cons_self)

/-! ## Many deliveries -/

/-- Whether so many deliveries of a message, each of which ended with the message given back, lead from
a world to another. -/
def Redelivered (k : Conditions σ) (p : Program Outcome) : Nat → World σ → World σ → Prop
  | 0, w, w' => w' = w
  | n + 1, w, w' => ∃ reason, (w.run k p).1 = some (.nak reason) ∧ Redelivered k p n (w.run k p).2 w'

theorem AddsJoins.trans {rows₁ rows₂ : List Activation} {sends₁ sends₂ : List JoinNotification}
    (h₁ : AddsJoins server r w v rows₁ sends₁) (h₂ : AddsJoins server r v w' rows₂ sends₂) :
    AddsJoins server r w w' (rows₁ ++ rows₂) (sends₁ ++ sends₂) where
  registration := h₂.registration.trans h₁.registration
  activations := by rw [h₂.activations, h₁.activations, List.append_assoc]
  joins := by rw [h₂.joins, h₁.joins, List.append_assoc]
  length_eq := by rw [List.length_append, List.length_append, h₁.length_eq, h₂.length_eq]
  isJoin := by
    intro a ha
    rcases List.mem_append.mp ha with ha | ha
    · exact h₁.isJoin a ha
    · obtain ⟨hOwn, hContext⟩ := h₂.isJoin a ha
      exact ⟨h₁.registration ▸ hOwn, hContext⟩

/-- Deliveries that were given back add at most one activation each, and as many as they tell of joins.

The induction is on the number of deliveries; every one of them starts in the world that the one before
it has left, with the device still registered under its name. -/
theorem redelivered_adds_joins {n : Nat} (hRequest : request? subject payload = some (.uplink r))
    (h : Redelivered k (route server subject payload) n w v) :
    ∃ rows sends, AddsJoins server r w v rows sends ∧ sends.length ≤ n := by
  induction n generalizing w with
  | zero =>
    obtain rfl : v = w := h
    exact ⟨[], [], ⟨rfl, (List.append_nil _).symm, (List.append_nil _).symm, rfl, by simp⟩,
      Nat.le_refl 0⟩
  | succ n ih =>
    obtain ⟨reason, -, hRest⟩ := h
    obtain ⟨rows₁, sends₁, hFirst, hOne⟩ := delivery_adds_joins k server w hRequest
    obtain ⟨rows₂, sends₂, hLater, hMany⟩ := ih hRest
    refine ⟨_, _, hFirst.trans hLater, ?_⟩
    rw [List.length_append]
    omega

/-- However often a message with a join was given back before its last delivery, it has added exactly as
many activations as it made attempts to tell of the join, at most one in each delivery, all with the
address and the key of the join.  If no delivery before the last one got as far as telling of the join,
there is at most one. -/
theorem redelivered_joins {n : Nat} (hRequest : request? subject payload = some (.uplink r))
    (hGivenBack : Redelivered k (route server subject payload) n w v) :
    ∃ rows sends, AddsJoins server r w (v.run k (route server subject payload)).2 rows sends ∧
      sends.length ≤ n + 1 ∧ (v.joins = w.joins → rows.length ≤ 1) := by
  obtain ⟨rows₁, sends₁, hEarlier, hMany⟩ := redelivered_adds_joins hRequest hGivenBack
  obtain ⟨rows₂, sends₂, hFinal, hOne⟩ := delivery_adds_joins k server v hRequest
  refine ⟨_, _, hEarlier.trans hFinal, ?_, ?_⟩
  · rw [List.length_append]
    omega
  · -- whatever was told was told in the last delivery
    intro hQuiet
    have hNone : sends₁ = [] := by
      have hJoins := hEarlier.joins
      rw [hQuiet] at hJoins
      exact List.self_eq_append_right.mp hJoins
    have hRows : rows₁.length = 0 := by rw [hEarlier.length_eq, hNone]; rfl
    have hLastRows := hFinal.length_eq
    rw [List.length_append]
    omega

/-! ### A sample -/

/-- Whether a request is an uplink with a join. -/
def carriesJoin : Request → Bool
  | .uplink r => r.context.isSome
  | _ => false

theorem exists_uplink_of_carriesJoin {request : Option Request}
    (h : request.any carriesJoin = true) :
    ∃ r context, request = some (.uplink r) ∧ r.context = some context := by
  obtain ⟨r, rfl, hJoin⟩ := (Option.any_eq_true _ _).mp h
  cases r with
  | uplink r =>
    obtain ⟨context, hContext⟩ := Option.isSome_iff_exists.mp hJoin
    exact ⟨r, context, rfl, hContext⟩
  | _ => cases hJoin

namespace Sample

/-- An uplink with a join as a message of the network server. -/
def message : List UInt8 := Utf8.encode <|
  "\x7b\"devEui\":\"0000000000000000\",\"txInfo\":\x7b\"frequency\":868100000,\"dr\":5\x7d,\"fCnt\":0," ++
  "\"fPort\":1,\"data\":\"AQID\",\"deviceActivationContext\":\x7b\"devAddr\":\"00000000\"," ++
  "\"appSKey\":\x7b\"aesKey\":\"AQEBAQEBAQEBAQEBAQEBAQ==\"\x7d\x7d\x7d"

def delivery : Program Outcome := route ⟨.empty, .ofCodec⟩ "ns.uplink" message

/-- A world without sessions in which the integration will not take the news of a join, once. -/
def refusingWorld : World Faults :=
  Sample.world [] ⟨[⟨.send .join, .integrationDispatch "down", some 1⟩], []⟩

/-- The first delivery is refused, and after the second there are two joins. -/
theorem two_deliveries : (request? "ns.uplink" message).any carriesJoin = true ∧
    (refusingWorld.run Sample.conditions delivery).1 =
      some (.nak "Integration dispatch error: down") ∧
    (((refusingWorld.run Sample.conditions delivery).2.run Sample.conditions
      delivery).2.store.activationsOf (.zero .eui64)).length = 2 := by
  decide +kernel

end Sample

theorem redelivered_joins_sample :
    ∃ r reason, request? "ns.uplink" Sample.message = some (.uplink r) ∧
      (Sample.refusingWorld.run Sample.conditions Sample.delivery).1 = some (.nak reason) ∧
      ∃ rows sends, AddsJoins ⟨.empty, .ofCodec⟩ r Sample.refusingWorld
        ((Sample.refusingWorld.run Sample.conditions Sample.delivery).2.run Sample.conditions
          Sample.delivery).2 rows sends ∧ sends.length ≤ 2 := by
  obtain ⟨r, -, hRequest, -⟩ := exists_uplink_of_carriesJoin Sample.two_deliveries.1
  have hGivenBack : Redelivered Sample.conditions Sample.delivery 1 Sample.refusingWorld _ :=
    ⟨_, Sample.two_deliveries.2.1, rfl⟩
  obtain ⟨rows, sends, hAdds, hMany, -⟩ := redelivered_joins hRequest hGivenBack
  exact ⟨r, _, hRequest, Sample.two_deliveries.2.1, rows, sends, hAdds, hMany⟩

/-- A join whose news is refused once is stored twice. -/
theorem join_stored_twice :
    (request? "ns.uplink" Sample.message).any carriesJoin = true ∧
      (Sample.refusingWorld.run Sample.conditions Sample.delivery).1 =
        some (.nak "Integration dispatch error: down") ∧
      Sample.refusingWorld.store.activationsOf (.zero .eui64) = [] ∧
      (((Sample.refusingWorld.run Sample.conditions Sample.delivery).2.run Sample.conditions
        Sample.delivery).2.store.activationsOf (.zero .eui64)).length = 2 := by
  obtain ⟨hJoin, hRefused, hTwice⟩ := Sample.two_deliveries
  exact ⟨hJoin, hRefused, rfl, hTwice⟩

end Ingress

end Lorawan
