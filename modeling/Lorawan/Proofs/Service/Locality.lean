import Lorawan.Proofs.Service.Report
import Lorawan.Proofs.Service.Slice
import Lorawan.Proofs.Service.Tolerance

/-!
# Operations keep to their device

The operation of a request has to do with one device only: every call it makes is about the device that
the request names, and what it makes of an answer does not depend on the numbers of activations.

* `Program.KeepsTo` says both at once, of two programs that go forward side by side: they make the same
  calls, about one device, as long as the answers fit the registration of this device and are the same up
  to numbers.  It goes through `>>=` (`Program.KeepsTo.bind`, `Service.KeepsTo.bind`).
* Every operation keeps to the device of its request, next to itself (`Server.handle_keepsTo`).
-/

namespace Lorawan

/-- The device that a request names. -/
def Request.devEui : Request → Eui64
  | .uplink r => r.devEui
  | .ack r => r.devEui
  | .error r => r.devEui
  | .status r => r.devEui
  | .location r => r.devEui

/-- Whether two programs make the same calls, all of them about one device of a store, and end in results
that are as they should be, whenever the answers to them fit and are the same up to numbers. -/
inductive Program.KeepsTo {α β : Type} (s : Store) (id : Eui64) (Φ : α → β → Prop) :
    Program α → Program β → Prop
  | done {a : α} {b : β} (h : Φ a b) : KeepsTo s id Φ (.done a) (.done b)
  | abort : KeepsTo s id Φ .abort .abort
  | call {c : Call} {next : c.Answer → Program α} {next' : c.Answer → Program β} (hOf : c.IsOf s id)
    (h : ∀ answer answer', Exchange.Fits s id ⟨c, answer⟩ → c.unnumbered answer' = c.unnumbered answer →
      KeepsTo s id Φ (next answer) (next' answer')) :
    KeepsTo s id Φ (.call c next) (.call c next')

theorem Program.KeepsTo.bind {α β γ δ : Type} {s : Store} {id : Eui64} {Φ : α → β → Prop}
    {Ψ : γ → δ → Prop} {p : Program α} {p' : Program β} {f : α → Program γ} {f' : β → Program δ}
    (h : p.KeepsTo s id Φ p') (hf : ∀ a b, Φ a b → (f a).KeepsTo s id Ψ (f' b)) :
    (p >>= f).KeepsTo s id Ψ (p' >>= f') := by
  induction h with
  | done h => exact hf _ _ h
  | abort => exact .abort
  | call hOf _ ih => exact .call hOf ih

namespace Service

variable {α β γ δ : Type} {s : Store} {id : Eui64}

/-- Whether two services keep to one device and end in values that are as they should be, or in the same
error. -/
def KeepsTo (s : Store) (id : Eui64) (Φ : α → β → Prop) (x : Service α) (y : Service β) : Prop :=
  x.program.KeepsTo s id (ResultsAlike Φ) y.program

theorem KeepsTo.bind {Φ : α → β → Prop} {Ψ : γ → δ → Prop} {x : Service α} {y : Service β}
    {f : α → Service γ} {g : β → Service δ} (h : x.KeepsTo s id Φ y)
    (hf : ∀ a b, Φ a b → (f a).KeepsTo s id Ψ (g b)) : (x >>= f).KeepsTo s id Ψ (y >>= g) := by
  unfold KeepsTo
  rw [program_bind, program_bind]
  refine Program.KeepsTo.bind h fun r r' hr => ?_
  cases hr with
  | ok h => exact hf _ _ h
  | error e => exact .done (.error e)

/-- Whether two values are the same, and as they should be. -/
def SameWith (P : α → Prop) (a b : α) : Prop := b = a ∧ P a

/-- What follows a part that is the same on both sides is compared on one value. -/
theorem KeepsTo.bind_same {Ψ : γ → δ → Prop} {P : α → Prop} {x y : Service α} {f : α → Service γ}
    {g : α → Service δ} (h : x.KeepsTo s id (SameWith P) y)
    (hf : ∀ a, P a → (f a).KeepsTo s id Ψ (g a)) : (x >>= f).KeepsTo s id Ψ (y >>= g) := by
  refine h.bind fun a b hSame => ?_
  obtain ⟨rfl, hP⟩ := hSame
  exact hf b hP

theorem keepsTo_pure {Φ : α → β → Prop} {a : α} {b : β} (h : Φ a b) :
    (pure a : Service α).KeepsTo s id Φ (pure b) :=
  .done (.ok h)

theorem keepsTo_throw {Φ : α → β → Prop} (e : ServiceError) :
    (throw e : Service α).KeepsTo s id Φ (throw e : Service β) :=
  .done (.error e)

theorem keepsTo_ofAttempt (x : Attempt ServiceError α) :
    (ofAttempt x).KeepsTo s id (SameWith fun _ => True) (ofAttempt x) := by
  rcases x with (e | _) | a
  · exact keepsTo_throw e
  · exact .abort
  · exact keepsTo_pure ⟨rfl, trivial⟩

theorem KeepsTo.discard {Φ : α → β → Prop} {x : Service α} {y : Service β} (h : x.KeepsTo s id Φ y) :
    (Functor.discard x : Service Unit).KeepsTo s id (SameWith fun _ => True) (Functor.discard y) := by
  rw [discard_eq, discard_eq]
  exact h.bind fun _ _ _ => keepsTo_pure ⟨rfl, trivial⟩

/-! ## The seams -/

/-- A call about the device whose outcome is the same for answers that are the same up to numbers. -/
theorem keepsTo_ask {Φ : α → β → Prop} {c : Call} {outcome : c.Answer → Except ServiceError α}
    {outcome' : c.Answer → Except ServiceError β} (hOf : c.IsOf s id)
    (h : ∀ answer answer', Exchange.Fits s id ⟨c, answer⟩ →
      c.unnumbered answer' = c.unnumbered answer → ResultsAlike Φ (outcome answer) (outcome' answer')) :
    (ask c outcome).KeepsTo s id Φ (ask c outcome') :=
  .call hOf fun answer answer' hFits hAlike => .done (h answer answer' hFits hAlike)

theorem now_keepsTo : now.KeepsTo s id (SameWith fun _ => True) now := by
  rw [now_eq]
  refine keepsTo_ask trivial fun time time' _ hAlike => ?_
  obtain rfl : time' = time := hAlike
  exact .ok ⟨rfl, trivial⟩

theorem getDevice_keepsTo : (getDevice id).KeepsTo s id (SameWith (s.Registers id)) (getDevice id) := by
  rw [getDevice_eq]
  refine keepsTo_ask rfl fun answer answer' hFits hAlike => ?_
  obtain rfl : answer' = answer := hAlike
  rcases answer' with e | _ | d
  · exact .error e
  · exact .error _
  · exact .ok ⟨rfl, hFits⟩

theorem updateDevice_keepsTo (mutation : DeviceMutation) :
    (updateDevice id mutation).KeepsTo s id (SameWith (s.Registers id)) (updateDevice id mutation) := by
  rw [updateDevice_eq]
  refine keepsTo_ask rfl fun answer answer' hFits hAlike => ?_
  obtain rfl : answer' = answer := hAlike
  rcases answer' with e | _ | d
  · exact .error e
  · exact .error _
  · exact .ok ⟨rfl, hFits⟩

theorem getApplication_keepsTo (i : Int64) :
    (getApplication i).KeepsTo s id (SameWith fun a => s.getApplication i = some a)
      (getApplication i) := by
  rw [getApplication_eq]
  refine keepsTo_ask trivial fun answer answer' hFits hAlike => ?_
  obtain rfl : answer' = answer := hAlike
  rcases answer' with e | _ | a
  · exact .error e
  · exact .error _
  · exact .ok ⟨rfl, hFits⟩

/-- Whether two activations are the same up to their numbers. -/
def SameSession (a b : Activation) : Prop := b.unnumbered = a.unnumbered

theorem createActivation_keepsTo (devAddr : DevAddr) (appSKey : Aes128Key) :
    (createActivation id devAddr appSKey).KeepsTo s id SameSession
      (createActivation id devAddr appSKey) := by
  rw [createActivation_eq]
  refine keepsTo_ask rfl fun answer answer' _ hAlike => ?_
  rcases answer with e | a <;> rcases answer' with e' | a'
  · obtain rfl := Except.error.inj hAlike
    exact .error e'
  · cases hAlike
  · cases hAlike
  · exact .ok (Except.ok.inj hAlike)

theorem lastActivation_keepsTo :
    (lastActivation id).KeepsTo s id SameSession (lastActivation id) := by
  rw [lastActivation_eq]
  refine keepsTo_ask rfl fun answer answer' _ hAlike => ?_
  rcases answer with e | _ | a <;> rcases answer' with e' | _ | a'
  · obtain rfl := Except.error.inj hAlike
    exact .error e'
  · cases hAlike
  · cases hAlike
  · cases hAlike
  · exact .error _
  · cases hAlike
  · cases hAlike
  · cases hAlike
  · exact .ok (Option.some.inj (Except.ok.inj hAlike))

theorem getGateways_keepsTo (ids : List Eui64) :
    (getGateways ids).KeepsTo s id (SameWith fun _ => True) (getGateways ids) := by
  rw [getGateways_eq]
  refine keepsTo_ask trivial fun answer answer' _ hAlike => ?_
  obtain rfl : answer' = answer := hAlike
  exact .ok ⟨rfl, trivial⟩

theorem record_keepsTo {n : Notification} (h : n.origin.IsOf s id) :
    (record n).KeepsTo s id (SameWith fun _ => True) (record n) := by
  rw [record_eq]
  exact keepsTo_ask ⟨h.1, n, rfl, h⟩ fun _ _ _ _ => .ok ⟨rfl, trivial⟩

/-- A notification that comes from the device is sent, whatever is made of the answer. -/
theorem send_keepsTo {n : Notification} (settle : Except ServiceError Unit → Except ServiceError Unit)
    (h : n.origin.IsOf s id) :
    (ask (.send n) settle).KeepsTo s id (SameWith fun _ => True) (ask (.send n) settle) := by
  refine keepsTo_ask h fun answer answer' _ hAlike => ?_
  obtain rfl : answer' = answer := hAlike
  cases settle answer' with
  | error e => exact .error e
  | ok a => exact .ok ⟨rfl, trivial⟩

theorem offer_keepsTo {n : Notification} (h : n.origin.IsOf s id) :
    (offer n).KeepsTo s id (SameWith fun _ => True) (offer n) := by
  rw [offer_eq]
  exact send_keepsTo _ h

theorem deliver_keepsTo {n : Notification} (h : n.origin.IsOf s id) :
    (deliver n).KeepsTo s id (SameWith fun _ => True) (deliver n) := by
  rw [deliver_eq]
  exact send_keepsTo _ h

/-! ## The operations -/

theorem report_keepsTo (hBuilt : s.IsBuilt) {device : Service Device}
    {tell : Device → Application → Notification}
    (settle : Except ServiceError Unit → Except ServiceError Unit)
    (hDevice : device.KeepsTo s id (SameWith (s.Registers id)) device)
    (hTell : ∀ d a, (tell d a).origin = .of a d) :
    (report device tell settle).KeepsTo s id (SameWith fun _ => True) (report device tell settle) := by
  have hFound : (withApplication device).KeepsTo s id
      (SameWith fun found => (tell found.1 found.2).origin.IsOf s id) (withApplication device) := by
    refine hDevice.bind_same fun d hRegistered => ?_
    refine (getApplication_keepsTo d.applicationId).bind_same fun a hApplication => ?_
    refine keepsTo_pure ⟨rfl, ?_⟩
    show (tell d a).origin.IsOf s id
    rw [hTell]
    exact Origin.isOf_of hBuilt hRegistered hApplication
  refine hFound.bind_same fun found hOrigin => ?_
  exact (record_keepsTo hOrigin).bind_same fun _ _ => send_keepsTo settle hOrigin

theorem activate_keepsTo (keks : KekSet) {d : Device} {a : Application} (context : ActivationContext)
    (hOrigin : (Origin.of a d).IsOf s id) :
    (activate keks d a context).KeepsTo s id SameSession (activate keks d a context) := by
  have hEui : d.devEui = id := hOrigin.1
  unfold activate
  cases context.appSKey with
  | none => exact keepsTo_throw _
  | some envelope =>
    refine (keepsTo_ofAttempt _).bind_same fun appSKey _ => ?_
    rw [hEui]
    refine (createActivation_keepsTo context.devAddr appSKey).bind fun session session' hSame => ?_
    refine (record_keepsTo hOrigin).bind_same fun _ _ => ?_
    exact (deliver_keepsTo hOrigin).bind_same fun _ _ => keepsTo_pure hSame

/-- Whether two approaches have found the same of the device, up to the number of its session. -/
structure LocatedAlike (s : Store) (id : Eui64) (l l' : Located) : Prop where
  same : l' = { l with session := l'.session }
  session : SameSession l.session l'.session
  origin : (Origin.of l.application l.device).IsOf s id

theorem approach_keepsTo (hBuilt : s.IsBuilt) (keks : KekSet) {r : UplinkRequest}
    (hEui : r.devEui = id) :
    (approach keks r).KeepsTo s id (LocatedAlike s id) (approach keks r) := by
  unfold approach
  cases r.txInfo with
  | none => exact keepsTo_throw _
  | some tx =>
    rw [hEui]
    refine now_keepsTo.bind_same fun time _ => ?_
    refine (updateDevice_keepsTo _).bind_same fun d hRegistered => ?_
    refine (getApplication_keepsTo d.applicationId).bind_same fun a hApplication => ?_
    have hOrigin : (Origin.of a d).IsOf s id := Origin.isOf_of hBuilt hRegistered hApplication
    have hJoin : (joinLeg keks d a r.context).KeepsTo s id (SameWith fun _ => True)
        (joinLeg keks d a r.context) := by
      cases r.context with
      | none => exact keepsTo_pure ⟨rfl, trivial⟩
      | some context => exact (activate_keepsTo keks context hOrigin).discard
    refine hJoin.bind_same fun _ _ => ?_
    rw [hRegistered.1]
    exact lastActivation_keepsTo.bind fun _ _ hSame => keepsTo_pure ⟨rfl, hSame, hOrigin⟩

theorem decodePayload_keepsTo (decoder : UplinkDecoder) {d : Device} {a : Application}
    (fCnt : UInt32) (fPort : UInt8) (data : List UInt8) (hOrigin : (Origin.of a d).IsOf s id) :
    (decodePayload decoder d a fCnt fPort data).KeepsTo s id (SameWith fun _ => True)
      (decodePayload decoder d a fCnt fPort data) := by
  unfold decodePayload
  rcases decoder a.codec fPort data with (e | _) | object
  · refine (record_keepsTo hOrigin).bind_same fun _ _ => ?_
    exact (offer_keepsTo hOrigin).bind_same fun _ _ => keepsTo_pure ⟨rfl, trivial⟩
  · exact .abort
  · exact keepsTo_pure ⟨rfl, trivial⟩

/-- Of a session a handover uses the address and the key only. -/
theorem handover_congr (decoder : UplinkDecoder) (r : UplinkRequest) {l l' : Located}
    (h : LocatedAlike s id l l') : handover decoder r l' = handover decoder r l := by
  obtain ⟨hSame, hSession, -⟩ := h
  have hAddr : l'.session.unnumbered.devAddr = l.session.unnumbered.devAddr := by rw [hSession]
  have hKey : l'.session.unnumbered.appSKey = l.session.unnumbered.appSKey := by rw [hSession]
  have hAddr : l'.session.devAddr = l.session.devAddr := hAddr
  have hKey : l'.session.appSKey = l.session.appSKey := hKey
  unfold handover
  rw [hAddr, hKey, hSame]
  rfl

theorem handover_keepsTo (decoder : UplinkDecoder) (r : UplinkRequest) {l : Located}
    (hOrigin : (Origin.of l.application l.device).IsOf s id) :
    (handover decoder r l).KeepsTo s id (SameWith fun _ => True) (handover decoder r l) := by
  unfold handover
  refine (keepsTo_ofAttempt _).bind_same fun data _ => ?_
  refine (decodePayload_keepsTo decoder r.fCnt r.fPort data hOrigin).bind_same fun object _ => ?_
  refine (getGateways_keepsTo _).bind_same fun gateways _ => ?_
  exact (record_keepsTo hOrigin).bind_same fun _ _ => deliver_keepsTo hOrigin

end Service

/-- The operation of a request keeps to the device that the request names. -/
theorem Server.handle_keepsTo {s : Store} (hBuilt : s.IsBuilt) (server : Server) (r : Request) :
    (server.handle r).KeepsTo s r.devEui (Service.SameWith fun _ => True) (server.handle r) := by
  cases r with
  | uplink r =>
    show (Service.uplink server.keks server.decoder r).KeepsTo s r.devEui _ (Service.uplink _ _ r)
    rw [Service.uplink_eq]
    refine (Service.approach_keepsTo hBuilt server.keks rfl).bind fun l l' hAlike => ?_
    -- what the approach has found is alike in both, and the handover depends on nothing else
    rw [Service.handover_congr server.decoder r hAlike]
    exact Service.handover_keepsTo server.decoder r hAlike.origin
  | ack r =>
    show (Service.ack r).KeepsTo s r.devEui _ (Service.ack r)
    rw [Service.ack_eq]
    exact Service.report_keepsTo hBuilt _ Service.getDevice_keepsTo fun _ _ => rfl
  | error r =>
    show (Service.error r).KeepsTo s r.devEui _ (Service.error r)
    rw [Service.error_eq]
    exact Service.report_keepsTo hBuilt _ Service.getDevice_keepsTo fun _ _ => rfl
  | status r =>
    show (Service.status r).KeepsTo s r.devEui _ (Service.status r)
    rw [Service.status_eq]
    exact Service.report_keepsTo hBuilt _ (Service.updateDevice_keepsTo _) fun _ _ => rfl
  | location r =>
    show (Service.location r).KeepsTo s r.devEui _ (Service.location r)
    cases hLocation : r.location with
    | none =>
      rw [Service.location_eq_throw hLocation]
      exact Service.keepsTo_throw _
    | some l =>
      rw [Service.location_eq hLocation]
      exact Service.report_keepsTo hBuilt _ (Service.updateDevice_keepsTo _) fun _ _ => rfl

end Lorawan
