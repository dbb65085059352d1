import Lorawan.Proofs.Crypto.FramePayload
import Lorawan.Proofs.Service.Run
import Lorawan.Proofs.Service.Uplink
import Lorawan.Proofs.Store.Lookup

/-!
# What an uplink delivers

Whatever fails on the way, an uplink hands at most one data notification to the integration.  It does so
exactly when its approach succeeds and its payload is not too large, and the notification is then the
reference one (`uplink_delivers`).

* **The path**: `Locates` spells the approach out, call by call, in the worlds it goes through.  It is the
  successful run of `Service.approach` (`locates_iff`).
* **The payload**: `IsReference` says where each part of the notification comes from, and which bytes the
  data are.
-/

namespace Lorawan

/-! ## Data notifications in the effects -/

/-- The data notification that was handed to the integration, if the effect is that. -/
def Effect.dataUp? : Effect → Option DataUp
  | .sent (.dataUp n) _ => some n
  | _ => none

/-- The data notifications that were handed to the integration so far, taken or not. -/
def World.dataUps (w : World σ) : List DataUp := w.effects.filterMap Effect.dataUp?

/-- The data notification that an exchange has handed over. -/
def Exchange.dataUp? (e : Exchange) : Option DataUp := e.effect?.bind Effect.dataUp?

theorem World.Plays.dataUps {k : Conditions σ} {w w' : World σ} {es : List Exchange}
    (h : World.Plays k w es w') : w'.dataUps = w.dataUps ++ es.filterMap Exchange.dataUp? :=
  h.filterMap_effects Effect.dataUp?

/-- Whether a decoder always returns, with an object, without one, or with an error. -/
def UplinkDecoder.Returns (decoder : UplinkDecoder) : Prop :=
  ∀ codec port data, decoder codec port data ≠ .error .abort

namespace Service

variable {σ : Type} {k : Conditions σ} {keks : KekSet} {decoder : UplinkDecoder}
  {r : UplinkRequest} {w v w' : World σ} {l : Located}

theorem dataUps_eq_nil {es : List Exchange} (h : ∀ e ∈ es, sendsData e.call = false) :
    es.filterMap Exchange.dataUp? = [] := by
  rw [List.filterMap_eq_nil_iff]
  intro ⟨c, a⟩ he
  have hCall : sendsData c = false := h _ he
  rcases c with _ | _ | _ | _ | _ | _ | _ | _ | n
  case send => cases n <;> first | rfl | cases hCall
  all_goals rfl

/-- An approach hands over no data. -/
theorem dataUps_run_approach (k : Conditions σ) (keks : KekSet) (r : UplinkRequest) (w : World σ) :
    (w.run k (approach keks r).program).2.dataUps = w.dataUps := by
  obtain ⟨es, hEnds, hPlays⟩ := World.exists_plays k (approach keks r).program w
  have hCalls := Program.CallsOnly.ends (approach_callsOnly keks r) hEnds
  have hNone := dataUps_eq_nil fun e he => sendsData_of_isApproachCall (hCalls e he)
  rw [hPlays.dataUps, hNone, List.append_nil]

/-! ## The path -/

/-- Whether an uplink that starts in a world gets through its approach with these finds, and in which
world it then opens its payload.  Every call is answered in the world that the one before it has left. -/
def Locates (k : Conditions σ) (keks : KekSet) (r : UplinkRequest) (w : World σ) (l : Located)
    (v : World σ) : Prop :=
  r.txInfo = some l.tx ∧ ∃ time w₁ w₂ w₃ w₄,
    World.answer k .now w = (time, w₁) ∧
    World.answer k (.updateDevice r.devEui (.markSeen time)) w₁ = (.ok (some l.device), w₂) ∧
    World.answer k (.getApplication l.device.applicationId) w₂ = (.ok (some l.application), w₃) ∧
    w₃.run k (joinLeg keks l.device l.application r.context).program = (some (.ok ()), w₄) ∧
    World.answer k (.lastActivation l.device.devEui) w₄ = (.ok (some l.session), v)

theorem locates_iff :
    Locates k keks r w l v ↔ w.run k (approach keks r).program = (some (.ok l), v) := by
  rw [World.run_eq_iff]
  -- the worlds of the path are those between the exchanges of the conversation
  constructor
  · rintro ⟨hTx, time, w₁, w₂, w₃, w₄, hNow, hDevice, hApplication, hJoin, hSession⟩
    obtain ⟨join, hEnds, hPlays⟩ := World.run_eq_iff.mp hJoin
    refine ⟨_, gives_approach_iff.mpr ⟨hTx, time, join, rfl, hEnds⟩, ?_⟩
    simp only [World.plays_cons_iff, World.plays_append_iff, World.plays_nil_iff]
    exact ⟨w₁, hNow, w₂, hDevice, w₃, hApplication, w₄, hPlays, v, hSession, rfl⟩
  · rintro ⟨es, hEnds, hPlays⟩
    obtain ⟨hTx, time, join, rfl, hJoin⟩ := gives_approach_iff.mp hEnds
    simp only [World.plays_cons_iff, World.plays_append_iff, World.plays_nil_iff] at hPlays
    obtain ⟨w₁, hNow, w₂, hDevice, w₃, hApplication, w₄, hPlays, _, hSession, rfl⟩ := hPlays
    exact ⟨hTx, time, w₁, w₂, w₃, w₄, hNow, hDevice, hApplication,
      World.run_eq_iff.mpr ⟨join, hJoin, hPlays⟩, hSession⟩

/-- A world has at most one way through an approach. -/
theorem Locates.unique {l' : Located} {v' : World σ} (h : Locates k keks r w l v)
    (h' : Locates k keks r w l' v') : l' = l := by
  have hSame := (locates_iff.mp h).symm.trans (locates_iff.mp h')
  cases hSame
  rfl

theorem Locates.dataUps_eq (h : Locates k keks r w l v) : v.dataUps = w.dataUps := by
  rw [← dataUps_run_approach k keks r w, locates_iff.mp h]

theorem Locates.gateways_eq (h : Locates k keks r w l v) : v.store.gateways = w.store.gateways := by
  obtain ⟨es, -, hPlays⟩ := World.run_eq_iff.mp (locates_iff.mp h)
  exact hPlays.gateways

/-- An uplink whose approach succeeds goes on with its handover. -/
theorem Locates.run_uplink (h : Locates k keks r w l v) (decoder : UplinkDecoder) :
    w.run k (uplink keks decoder r).program = v.run k (handover decoder r l).program := by
  rw [uplink_eq, World.run_service_bind, locates_iff.mp h]

/-- An uplink whose approach does not succeed leaves it at that. -/
theorem run_uplink_stopped (h : ¬∃ l v, Locates k keks r w l v) (decoder : UplinkDecoder) :
    (w.run k (uplink keks decoder r).program).2 = (w.run k (approach keks r).program).2 := by
  rw [uplink_eq, World.run_service_bind]
  rcases hApproach : w.run k (approach keks r).program with ⟨_ | e | l, v⟩
  · rfl
  · rfl
  · exact absurd ⟨l, v, locates_iff.mpr hApproach⟩ h

/-- The device that was found is the registered one, and its application is the one that the
registration names. -/
theorem Locates.registered (h : Locates k keks r w l v) :
    ∃ row, w.store.getDevice r.devEui = some row ∧
      w.store.getApplication row.applicationId = some l.application ∧
      l.device.devEui = row.devEui ∧ l.device.name = row.name := by
  obtain ⟨-, time, w₁, w₂, w₃, w₄, hNow, hDevice, hApplication, -, -⟩ := h
  obtain ⟨row, hRow, hSeen⟩ := World.answer_updateDevice_ok hDevice
  have hFound := World.answer_getApplication_ok hApplication
  -- the row is read before the first change, and the application after it
  have hClock : w₁.store = w.store := by
    obtain ⟨-, rfl⟩ := Prod.mk.inj hNow
    rfl
  have hApplications : w₂.store.applications = w₁.store.applications := by
    rw [← World.answer_applications k (.updateDevice r.devEui (.markSeen time)) w₁, hDevice]
  rw [hClock] at hRow hApplications
  refine ⟨row, hRow, ?_, ?_, ?_⟩
  · rw [hFound, hSeen]
    unfold Store.getApplication
    rw [hApplications]
    simp
  · rw [hSeen]
    simp
  · rw [hSeen]
    simp

/-- The session that was found is the newest activation of the device. -/
theorem Locates.isNewest (h : Locates k keks r w l v) :
    v.store.IsNewest l.device.devEui l.session := by
  obtain ⟨-, time, w₁, w₂, w₃, w₄, -, -, -, -, hSession⟩ := h
  obtain ⟨hFound, hStore⟩ := World.answer_lastActivation_ok hSession
  rw [hStore]
  exact Store.lastActivation_newest hFound.symm

/-! ## The payload -/

/-- The name under which an uplink tells of a gateway, which it looks up in a world `u`: the registered
name, or none if the gateway is not known or the look-up fails. -/
def gatewayName (k : Conditions σ) (r : UplinkRequest) (s : Store) (u : World σ) (id : Eui64) : String :=
  match (World.answer k (.getGateways (r.rxInfo.map RxReport.gatewayId)) u).1 with
  | .ok _ => ((s.gateways.get? id).map Gateway.name).getD ""
  | .error _ => ""

/-- How an uplink is to tell of a reception, when the gateways have these names. -/
def reception (nameOf : Eui64 → String) (report : RxReport) : RxInfo where
  gatewayId := report.gatewayId
  name := nameOf report.gatewayId
  time := report.time.bind fun text => (Time.parseStrict text).toOption.map Time.Zoned.instant
  rssi := report.rssi
  loraSnr := report.loraSnr
  location := report.location

/-- The object that a decoder has made: none if it failed. -/
def objectOf : Attempt ServiceError (Option Json) → Option Json
  | .ok object => object
  | .error _ => none

theorem decodePayload_object {d : Device} {a : Application} {fCnt : UInt32} {fPort : UInt8}
    {data : List UInt8} {es : List Exchange} {object : Option Json}
    (h : (decodePayload decoder d a fCnt fPort data).Gives es object) :
    object = objectOf (decoder a.codec fPort data) := by
  rcases decodePayload_cases h with ⟨_, hOk, -, hObject⟩ | ⟨_, _, _, hError, -, hObject⟩ |
    ⟨-, -, hNone⟩
  · cases hObject
    rw [hOk]
    rfl
  · cases hObject
    rw [hError]
    rfl
  · cases hNone

/-- Whether a notification is what an uplink is to deliver that started in world `w` and opened its
payload in world `v`. -/
structure IsReference (k : Conditions σ) (decoder : UplinkDecoder) (r : UplinkRequest) (w : World σ)
    (l : Located) (v : World σ) (n : DataUp) : Prop where
  origin : ∃ row, w.store.getDevice r.devEui = some row ∧
    w.store.getApplication row.applicationId = some l.application ∧
    n.origin = ⟨l.application.id, l.application.name, row.name, row.devEui⟩
  transmission : r.txInfo = some ⟨n.txInfo.frequency, n.txInfo.dr, n.adr⟩
  fCnt : n.fCnt = r.fCnt
  fPort : n.fPort = r.fPort
  session : v.store.IsNewest n.origin.devEui l.session
  data : FramePayload.OpensUplink l.session.appSKey l.session.devAddr r.fCnt r.data n.data
  object : n.object = objectOf (decoder l.application.codec r.fPort n.data)
  rxInfo : ∃ u object, v.run k
      (decodePayload decoder l.device l.application r.fCnt r.fPort n.data).program =
        (some (.ok object), u) ∧
    n.rxInfo = r.rxInfo.map (reception (gatewayName k r w.store u))

/-- The receptions bear the registered names, as far as the look-up got them. -/
theorem map_rxInfo {s : Store} {u u' : World σ} {known : Except ServiceError (Table Eui64 Gateway)}
    (hStore : u.store.gateways = s.gateways)
    (h : World.answer k (.getGateways (r.rxInfo.map RxReport.gatewayId)) u = (known, u')) :
    r.rxInfo.map (rxInfo (knownGateways known)) = r.rxInfo.map (reception (gatewayName k r s u)) := by
  refine List.map_congr_left fun report hReport => ?_
  unfold rxInfo reception gatewayName
  rw [h]
  cases known with
  | error e => rfl
  | ok gateways =>
    have hListed : report.gatewayId ∈ r.rxInfo.map RxReport.gatewayId :=
      List.mem_map_of_mem hReport
    rw [World.answer_getGateways_ok h, ← hStore]
    simp only [knownGateways, Store.get?_getGateways hListed]

/-- A handover of a payload that is not too large delivers the reference notification. -/
theorem run_handover (hDecoder : decoder.Returns) (h : Locates k keks r w l v)
    (hSize : r.data.length ≤ FramePayload.maxSize) :
    ∃ n, IsReference k decoder r w l v n ∧
      (v.run k (handover decoder r l).program).2.dataUps = v.dataUps ++ [n] := by
  obtain ⟨data, hData⟩ := FramePayload.decryptUplink_ok l.session.appSKey l.session.devAddr r.fCnt hSize
  obtain ⟨es, hEnds, hPlays⟩ := World.exists_plays k (handover decoder r l).program v
  rcases handover_cases hData hEnds with
    ⟨report, object, known, logged, sent, hReport, rfl, -⟩ | ⟨hAbort, -, -⟩
  · obtain ⟨row, hRow, hApplication, hEui, hName⟩ := h.registered
    obtain ⟨u, hDecode, hRest⟩ := World.plays_append_iff.mp hPlays
    obtain ⟨u', hGateways, -⟩ := World.plays_cons_iff.mp hRest
    -- no call on the way to the look-up has changed the gateways
    have hStore : u.store.gateways = w.store.gateways := hDecode.gateways.trans h.gateways_eq
    refine ⟨dataUp r l (knownGateways known) data object, ?_, ?_⟩
    · exact {
        origin := ⟨row, hRow, hApplication, by rw [← hName, ← hEui]; rfl⟩
        transmission := h.1
        fCnt := rfl
        fPort := rfl
        session := h.isNewest
        data := FramePayload.opensUplink_of_decryptUplink hData
        object := decodePayload_object hReport
        rxInfo := ⟨u, object, World.run_eq_iff.mpr ⟨report, hReport, hDecode⟩,
          map_rxInfo hStore hGateways⟩ }
    · have hQuiet := decodePayload_callsOnly (P := (sendsData · = false)) decoder l.device
        l.application r.fCnt r.fPort data (fun _ _ => rfl) fun _ => rfl
      rw [hPlays.dataUps, List.filterMap_append, dataUps_eq_nil (hQuiet.ends hReport)]
      rfl
  · exact absurd hAbort (hDecoder _ _ _)

/-- A payload that is too large is not handed over. -/
theorem run_handover_tooLarge (hSize : FramePayload.maxSize < r.data.length) :
    (v.run k (handover decoder r l).program).2.dataUps = v.dataUps := by
  obtain ⟨es, hEnds, hPlays⟩ := World.exists_plays k (handover decoder r l).program v
  obtain ⟨rfl, -⟩ := handover_stops (FramePayload.decryptUplink_error _ _ _ hSize) hEnds
  rw [hPlays.dataUps]
  exact List.append_nil _

/-! ## The law -/

/-- Every run of an uplink, in any world and under any conditions, hands over at most one data
notification.  It hands one over exactly when its approach succeeds and its payload is not too large, and
then this is the reference notification. -/
theorem uplink_delivers (k : Conditions σ) (keks : KekSet) (r : UplinkRequest) (w : World σ)
    (hDecoder : decoder.Returns) :
    ∃ sends, (w.run k (uplink keks decoder r).program).2.dataUps = w.dataUps ++ sends ∧
      sends.length ≤ 1 ∧
      (sends ≠ [] ↔
        (∃ l v, Locates k keks r w l v) ∧ r.data.length ≤ 4080) ∧
      ∀ n ∈ sends, ∃ l v, Locates k keks r w l v ∧ IsReference k decoder r w l v n := by
  -- the only conditions are that the session is found and that the data are not too long
  by_cases hFound : ∃ l v, Locates k keks r w l v
  · obtain ⟨l, v, hLocates⟩ := hFound
    rw [hLocates.run_uplink]
    by_cases hSize : r.data.length ≤ 4080
    · obtain ⟨n, hReference, hDelivered⟩ := run_handover hDecoder hLocates hSize
      rw [hLocates.dataUps_eq] at hDelivered
      refine ⟨[n], hDelivered, Nat.le_refl 1, ?_, ?_⟩
      · exact ⟨fun _ => ⟨⟨l, v, hLocates⟩, hSize⟩, fun _ => List.cons_ne_nil n []⟩
      · intro n' hn'
        obtain rfl := List.mem_singleton.mp hn'
        exact ⟨l, v, hLocates, hReference⟩
    · refine ⟨[], ?_, Nat.zero_le 1, ?_, by simp⟩
      · rw [run_handover_tooLarge (Nat.lt_of_not_le hSize), hLocates.dataUps_eq, List.append_nil]
      · simp [hSize]
  · refine ⟨[], ?_, Nat.zero_le 1, by simp [hFound], by simp⟩
    rw [run_uplink_stopped hFound, dataUps_run_approach, List.append_nil]

/-! ### A sample -/

namespace Sample

/-- A device that was never heard from. -/
def device : Device where
  devEui := .zero .eui64
  applicationId := 1
  name := "meter"
  lastSeenAt := none
  battery := none
  margin := none
  latitude := none
  longitude := none
  altitude := none

def application : Application := ⟨1, "metering", .none⟩

/-- The key whose bytes are all the same. -/
def key (byte : UInt8) : Aes128Key := ⟨⟨List.replicate 16 byte, List.length_replicate⟩⟩

/-- A session that began so many seconds after the start of 1970. -/
def session (seconds : Int) : Activation := ⟨1, device.devEui, .zero .devAddr, key 0, ⟨seconds, 0⟩⟩

/-- The store of one device with these sessions. -/
def store (activations : List Activation) : Store :=
  { (Store.empty.insertDevice device).insertApplication application with activations }

def world (activations : List Activation) (faults : Faults) : World Faults :=
  ⟨store activations, faults, []⟩

/-- The conditions a thousand seconds after the start of 1970, with notifications going to a receiver. -/
def conditions : Conditions Faults := .ofFaults ⟨.receiver, .receiver⟩ ⟨1000, 0⟩

/-- An uplink of the device. -/
def request (context : Option ActivationContext) : UplinkRequest where
  devEui := device.devEui
  txInfo := some ⟨868100000, 5, false⟩
  rxInfo := []
  fCnt := 0
  fPort := 1
  data := [1, 2, 3]
  context := context

end Sample

/-- What is delivered is what the payload opens to under a key of zeros. -/
theorem uplink_delivers_sample :
    UplinkDecoder.Returns (fun _ _ _ => .ok none) ∧
      ∃ n, ((Sample.world [Sample.session 0] ⟨[], []⟩).run Sample.conditions
          (uplink .empty (fun _ _ _ => .ok none) (Sample.request none)).program).2.dataUps = [n] ∧
        n.data = [0xd4, 0x7a, 0xf1] := by
  have hDecoder : UplinkDecoder.Returns (fun _ _ _ => .ok none) := fun _ _ _ h => by cases h
  obtain ⟨sends, hSends, hOnce, hExactly, hDelivered⟩ := uplink_delivers Sample.conditions .empty
    (Sample.request none) (Sample.world [Sample.session 0] ⟨[], []⟩) hDecoder
  obtain ⟨l, v, hSession, hLocates⟩ : ∃ l v, l.session = Sample.session 0 ∧
      Locates Sample.conditions .empty (Sample.request none)
        (Sample.world [Sample.session 0] ⟨[], []⟩) l v :=
    ⟨⟨_, _, _, Sample.session 0⟩, _, rfl, rfl, _, _, _, _, _, rfl, rfl, rfl, rfl, rfl⟩
  have hSent : sends ≠ [] := hExactly.mpr ⟨⟨l, v, hLocates⟩, by decide⟩
  obtain ⟨n, rfl⟩ : ∃ n, sends = [n] :=
    List.length_eq_one_iff.mp (Nat.le_antisymm hOnce (List.length_pos_iff.mpr hSent))
  obtain ⟨l', v', hLocates', hReference⟩ := hDelivered n (List.mem_singleton_self n)
  have hData := hReference.data
  rw [hLocates.unique hLocates', hSession] at hData
  have hOpened : FramePayload.decryptUplink (Sample.key 0) (.zero .devAddr) 0 [1, 2, 3] =
      .ok [0xd4, 0x7a, 0xf1] := congrArg Except.ok (by decide +kernel)
  exact ⟨hDecoder, n, hSends, hData.unique (FramePayload.opensUplink_of_decryptUplink hOpened)⟩

end Service

end Lorawan
