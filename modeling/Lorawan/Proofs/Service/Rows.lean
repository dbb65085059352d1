import Lorawan.Proofs.Service.Report
import Lorawan.Proofs.Service.Run
import Lorawan.Proofs.Service.Uplink
import Lorawan.Service.Server

/-!
# Rows of a store over a conversation

What a conversation makes of the device rows, and how activations are numbered.

* **Devices**: a row changes by the mutations that were made of it, in their order
  (`World.Plays.combines`).  No conversation adds a row, takes one away, or moves one
  (`World.Plays.keys`).
* **Activations**: in a store that was built by its own operations the activations bear the numbers from
  one on, in the order of the list (`Store.IsBuilt.ids`), and every conversation keeps such a store such
  (`World.Plays.isBuilt`).
* **Requests**: an operation changes no device but that of its request, and only in the way that
  `Request.Changes` allows (`Server.handle_changes`).
-/

namespace Lorawan

namespace Table

variable {κ ν : Type} [DecidableEq κ]

/-- The keys of a table, in the order in which they were first inserted. -/
def keys (t : Table κ ν) : List κ := t.rows.map Prod.fst

theorem map_fst_insertRow {key : κ} {rows : List (κ × ν)} {old : ν}
    (h : rows.lookup key = some old) (row : ν) :
    (insertRow key row rows).map Prod.fst = rows.map Prod.fst := by
  induction rows with
  | nil => cases h
  | cons r rows ih =>
    obtain ⟨k, r⟩ := r
    by_cases hKey : k = key
    · -- the new row takes the place of the old one
      rw [insertRow, if_pos hKey, List.map_cons, List.map_cons, hKey]
    · have hElsewhere : (key == k) = false := beq_eq_false_iff_ne.mpr (Ne.symm hKey)
      have hLater : rows.lookup key = some old := by
        rw [List.lookup_cons, hElsewhere] at h
        exact h
      rw [insertRow, if_neg hKey, List.map_cons, List.map_cons, ih hLater]

/-- A row that takes the place of another leaves the keys as they are. -/
theorem keys_insert {t : Table κ ν} {key : κ} {old : ν} (h : t.get? key = some old) (row : ν) :
    (t.insert key row).keys = t.keys :=
  map_fst_insertRow h row

end Table

namespace Store

variable {s : Store}

theorem updateDevice_keys (s : Store) (devEui : Eui64) (mutation : DeviceMutation) :
    (s.updateDevice devEui mutation).2.devices.keys = s.devices.keys := by
  unfold updateDevice
  split
  · rfl
  · next d hDevice => exact Table.keys_insert hDevice _

/-- Whether a store has come about by its own operations. -/
inductive IsBuilt : Store → Prop
  | empty : IsBuilt .empty
  | insertDevice {s : Store} (h : IsBuilt s) (d : Device) : IsBuilt (s.insertDevice d)
  | insertApplication {s : Store} (h : IsBuilt s) (a : Application) : IsBuilt (s.insertApplication a)
  | insertGateway {s : Store} (h : IsBuilt s) (g : Gateway) : IsBuilt (s.insertGateway g)
  | insertActivation {s : Store} (h : IsBuilt s) (devEui : Eui64) (devAddr : DevAddr)
    (appSKey : Aes128Key) (createdAt : Time.Instant) :
    IsBuilt (s.insertActivation devEui devAddr appSKey createdAt).2
  | updateDevice {s : Store} (h : IsBuilt s) (devEui : Eui64) (mutation : DeviceMutation) :
    IsBuilt (s.updateDevice devEui mutation).2

/-- Whether the activations bear the numbers from one on, in the order of the list. -/
def IsNumbered (s : Store) : Prop :=
  s.activations.map Activation.id = List.range' 1 s.activations.length

/-- A new activation has the next number. -/
theorem IsNumbered.insertActivation (h : s.IsNumbered) (devEui : Eui64) (devAddr : DevAddr)
    (appSKey : Aes128Key) (createdAt : Time.Instant) :
    (s.insertActivation devEui devAddr appSKey createdAt).2.IsNumbered := by
  show (s.activations ++ [_]).map Activation.id = List.range' 1 (s.activations ++ [_]).length
  rw [List.map_append, h, List.length_append, List.length_singleton, List.range'_concat,
    Nat.one_mul, Nat.add_comm 1]
  rfl

theorem IsNumbered.id_eq (h : s.IsNumbered) {i : Nat} {a : Activation}
    (ha : s.activations[i]? = some a) : a.id = i + 1 := by
  have hi : i < s.activations.length := (List.getElem?_eq_some_iff.mp ha).1
  have hAt : (s.activations.map Activation.id)[i]? = (List.range' 1 s.activations.length)[i]? := by
    rw [h]
  rw [List.getElem?_map, ha, List.getElem?_range' hi] at hAt
  have hId : a.id = 1 + 1 * i := Option.some.inj hAt
  omega

/-- The activations are numbered from one on, in the order of the list. -/
theorem IsBuilt.ids (h : s.IsBuilt) :
    s.activations.map Activation.id = List.range' 1 s.activations.length := by
  induction h with
  | empty => rfl
  | insertDevice _ d ih => exact ih
  | insertApplication _ a ih => exact ih
  | insertGateway _ g ih => exact ih
  | insertActivation _ devEui devAddr appSKey createdAt ih =>
    exact IsNumbered.insertActivation ih devEui devAddr appSKey createdAt
  | updateDevice _ devEui mutation ih =>
    rw [updateDevice_activations]
    exact ih

end Store

/-- The mutation of a device that a call with this answer has made. -/
def Exchange.mutation? (id : Eui64) : Exchange → Option DeviceMutation
  | ⟨.updateDevice devEui mutation, .ok (some _)⟩ => if devEui = id then some mutation else none
  | _ => none

theorem Exchange.mutation?_eq_some {id : Eui64} {e : Exchange} {m : DeviceMutation}
    (h : e.mutation? id = some m) : ∃ d, e = ⟨.updateDevice id m, .ok (some d)⟩ := by
  unfold mutation? at h
  split at h
  · next devEui mutation d =>
    split at h
    · next hId =>
      obtain rfl := Option.some.inj h
      exact ⟨d, by rw [hId]⟩
    · cases h
  · cases h

/-- The row that a call with this answer has put in the place of another. -/
def Exchange.updated? : Exchange → Option (Eui64 × Device)
  | ⟨.updateDevice devEui _, .ok (some d)⟩ => some (devEui, d)
  | _ => none

/-- The record after some mutations, one after the other. -/
def Device.mutated (d : Device) (ms : List DeviceMutation) : Device :=
  d.applyAll (ms.map fun m d => d.apply m)

namespace World

variable {σ : Type} {k : Conditions σ} {w w' : World σ} {es : List Exchange}

/-! ## One call -/

theorem answer_isBuilt (k : Conditions σ) (c : Call) {w : World σ} (h : w.store.IsBuilt) :
    (answer k c w).2.store.IsBuilt := by
  cases c <;> simp only [answer, guarded, outward] <;> (try split) <;>
    first | exact h | exact h.updateDevice _ _ | exact h.insertActivation _ _ _ _

theorem answer_keys (k : Conditions σ) (c : Call) (w : World σ) :
    (answer k c w).2.store.devices.keys = w.store.devices.keys := by
  cases c <;> simp only [answer, guarded, outward] <;> (try split) <;>
    first | rfl | exact Store.updateDevice_keys ..

/-- A row that was found takes the place of its former self, and nothing else becomes of the devices. -/
theorem answer_devices (k : Conditions σ) (c : Call) (w : World σ) :
    (answer k c w).2.store.devices =
      w.store.devices.insertAll (Exchange.updated? ⟨c, (answer k c w).1⟩).toList := by
  cases c with
  | updateDevice devEui mutation =>
    simp only [answer, guarded]
    split
    · rfl
    · simp only [Store.updateDevice]
      split <;> rfl
  | _ =>
    simp only [answer, guarded, outward]
    (try split) <;> rfl

/-- An update mutates the row of its device alone, and only if it has found it. -/
theorem answer_getDevice (k : Conditions σ) (id : Eui64) (c : Call) (w : World σ) :
    (answer k c w).2.store.getDevice id = (w.store.getDevice id).map fun d =>
      d.mutated (Exchange.mutation? id ⟨c, (answer k c w).1⟩).toList := by
  have hSame : ∀ row : Option Device, row = row.map fun d => d.mutated [] :=
    fun row => Option.map_id'.symm
  cases c with
  | updateDevice devEui mutation =>
    simp only [answer, guarded]
    split
    -- a call that fails writes nothing
    · exact hSame _
    · simp only [Store.updateDevice]
      cases hRow : w.store.getDevice devEui with
      | none => exact hSame _
      | some row =>
        show (w.store.devices.insert devEui (row.apply mutation)).get? id = _
        rw [Table.get?_insert]
        by_cases hId : id = devEui
        · subst hId
          rw [if_pos rfl, hRow]
          simp [Exchange.mutation?, Device.mutated, Device.applyAll]
        · have hOther : devEui ≠ id := fun h => hId h.symm
          rw [if_neg hId]
          simp only [Exchange.mutation?, if_neg hOther]
          exact hSame _
  | _ =>
    -- no other call writes rows of devices
    simp only [answer, guarded, outward]
    (try split) <;> exact hSame _

/-! ## Conversations -/

namespace Plays

/-- What every call keeps is kept by a conversation. -/
theorem preserves (P : World σ → Prop) (h : Plays k w es w') (hw : P w)
    (hStep : ∀ c w, P w → P (answer k c w).2) : P w' := by
  induction es generalizing w with
  | nil => rwa [show w' = w from h]
  | cons e es ih => exact ih h.2 (hStep e.call w hw)

theorem isBuilt (h : Plays k w es w') (hw : w.store.IsBuilt) : w'.store.IsBuilt :=
  h.preserves (fun w => w.store.IsBuilt) hw fun c _ => answer_isBuilt k c

/-- The devices stay the same ones, in the same order. -/
theorem keys (h : Plays k w es w') : w'.store.devices.keys = w.store.devices.keys :=
  h.unchanged (fun w => w.store.devices.keys) (answer_keys k)

theorem getDevice (h : Plays k w es w') (id : Eui64) :
    w'.store.getDevice id =
      (w.store.getDevice id).map fun d => d.mutated (es.filterMap (Exchange.mutation? id)) := by
  induction es generalizing w with
  | nil =>
    rw [show w' = w from h]
    exact Option.map_id'.symm
  | cons e es ih =>
    obtain ⟨hAnswer, hRest⟩ := h
    -- the mutation of the first exchange comes before those of the rest
    have hFirst : ∀ d : Device, d.mutated ((e :: es).filterMap (Exchange.mutation? id)) =
        (d.mutated (e.mutation? id).toList).mutated (es.filterMap (Exchange.mutation? id)) := by
      intro d
      rw [List.filterMap_cons]
      cases e.mutation? id <;> rfl
    rw [ih hRest, answer_getDevice, ← hAnswer, Option.map_map]
    exact congrArg (Option.map · _) (funext fun d => (hFirst d).symm)

theorem devices (h : Plays k w es w') :
    w'.store.devices = w.store.devices.insertAll (es.filterMap Exchange.updated?) := by
  induction es generalizing w with
  | nil => rw [show w' = w from h]; rfl
  | cons e es ih =>
    obtain ⟨hAnswer, hRest⟩ := h
    rw [ih hRest, answer_devices, ← hAnswer, List.filterMap_cons]
    cases e.updated? <;> rfl

/-- The store after a conversation, as the exchanges have made it. -/
theorem store (h : Plays k w es w') :
    w'.store = { w.store with
      devices := w.store.devices.insertAll (es.filterMap Exchange.updated?)
      activations := w.store.activations ++ es.filterMap Exchange.created? } := by
  show w'.store = ⟨_, w.store.applications, w.store.gateways, _⟩
  rw [← h.devices, ← h.applications, ← h.gateways, ← h.activations]

/-- A row combines the mutations that were made of it. -/
theorem combines (h : Plays k w es w') {id : Eui64} {d : Device}
    (hRow : w.store.getDevice id = some d) :
    ∃ d', w'.store.getDevice id = some d' ∧
      d.Combines d' (es.filterMap (Exchange.mutation? id)) := by
  refine ⟨d.mutated (es.filterMap (Exchange.mutation? id)), ?_, Device.combines_applyAll d _⟩
  rw [h.getDevice, hRow]
  rfl

end Plays

end World

/-! ## Requests -/

/-- Whether carrying out a request may change a device in this way. -/
inductive Request.Changes : Request → Eui64 → DeviceMutation → Prop
  | uplink (r : UplinkRequest) (time : Time.Instant) : Changes (.uplink r) r.devEui (.markSeen time)
  | status (r : StatusRequest) : Changes (.status r) r.devEui (.setStatus r.battery r.margin)
  | location (r : LocationRequest) {l : Location} (h : r.location = some l) :
    Changes (.location r) r.devEui (.setLocation l)

/-- Whether a call changes a device in no way but those that a request allows. -/
def Call.IsChangeOf (r : Request) (c : Call) : Prop :=
  ∀ id m, c = .updateDevice id m → r.Changes id m

/-- A call that is no update allows of any request. -/
theorem Call.isChangeOf_of_ne {r : Request} {c : Call} (h : ∀ id m, c ≠ .updateDevice id m) :
    c.IsChangeOf r :=
  fun id m hc => absurd hc (h id m)

theorem Request.Changes.isChangeOf {r : Request} {id : Eui64} {m : DeviceMutation}
    (h : r.Changes id m) : (Call.updateDevice id m).IsChangeOf r := by
  intro id' m' hc
  obtain ⟨rfl, rfl⟩ := Call.updateDevice.inj hc
  exact h

namespace Service

variable {r : Request}

theorem isChangeOf_of_isActivationCall {c : Call} (h : isActivationCall c = true) :
    c.IsChangeOf r :=
  Call.isChangeOf_of_ne fun id m hc => by rw [hc] at h; cases h

theorem isChangeOf_of_isHandoverCall {c : Call} (h : isHandoverCall c = true) : c.IsChangeOf r :=
  Call.isChangeOf_of_ne fun id m hc => by rw [hc] at h; cases h

theorem report_changes {device : Service Device} (tell : Device → Application → Notification)
    (settle : Except ServiceError Unit → Except ServiceError Unit)
    (hDevice : device.CallsOnly (Call.IsChangeOf r)) :
    (report device tell settle).CallsOnly (Call.IsChangeOf r) :=
  report_callsOnly hDevice (fun _ => Call.isChangeOf_of_ne nofun)
    (fun _ _ => Call.isChangeOf_of_ne nofun) fun _ => Call.isChangeOf_of_ne nofun

theorem approach_changes (keks : KekSet) (r : UplinkRequest) :
    (approach keks r).CallsOnly (Call.IsChangeOf (.uplink r)) := by
  unfold approach
  cases r.txInfo with
  | none => exact callsOnly_throw
  | some tx =>
    rw [now_eq]
    refine CallsOnly.bind (callsOnly_ask (Call.isChangeOf_of_ne nofun)) fun time => ?_
    rw [updateDevice_eq]
    refine CallsOnly.bind (callsOnly_ask (Request.Changes.uplink r time).isChangeOf) fun d => ?_
    rw [getApplication_eq]
    refine CallsOnly.bind (callsOnly_ask (Call.isChangeOf_of_ne nofun)) fun a => ?_
    have hJoin := Program.CallsOnly.mono (joinLeg_callsOnly keks d a r.context) fun _ =>
      isChangeOf_of_isActivationCall (r := .uplink r)
    refine CallsOnly.bind hJoin fun _ => ?_
    rw [lastActivation_eq]
    exact CallsOnly.bind (callsOnly_ask (Call.isChangeOf_of_ne nofun)) fun _ => callsOnly_pure

end Service

/-- An operation changes no device in a way that its request does not allow. -/
theorem Server.handle_changes (server : Server) (r : Request) :
    (server.handle r).CallsOnly (Call.IsChangeOf r) := by
  cases r with
  | uplink r =>
    show (Service.uplink server.keks server.decoder r).CallsOnly _
    rw [Service.uplink_eq]
    -- only the approach touches a row: the handover reads gateways, logs and sends
    refine Service.CallsOnly.bind (Service.approach_changes server.keks r) fun l => ?_
    exact Program.CallsOnly.mono (Service.handover_callsOnly server.decoder r l) fun _ =>
      Service.isChangeOf_of_isHandoverCall
  | ack r =>
    show (Service.ack r).CallsOnly _
    rw [Service.ack_eq, Service.getDevice_eq]
    exact Service.report_changes _ _ (Service.callsOnly_ask (Call.isChangeOf_of_ne nofun))
  | error r =>
    show (Service.error r).CallsOnly _
    rw [Service.error_eq, Service.getDevice_eq]
    exact Service.report_changes _ _ (Service.callsOnly_ask (Call.isChangeOf_of_ne nofun))
  | status r =>
    show (Service.status r).CallsOnly _
    rw [Service.status_eq, Service.updateDevice_eq]
    exact Service.report_changes _ _ (Service.callsOnly_ask (Request.Changes.status r).isChangeOf)
  | location r =>
    show (Service.location r).CallsOnly _
    cases hLocation : r.location with
    | none =>
      rw [Service.location_eq_throw hLocation]
      exact Service.callsOnly_throw
    | some l =>
      rw [Service.location_eq hLocation, Service.updateDevice_eq]
      have hChange := (Request.Changes.location r hLocation).isChangeOf
      exact Service.report_changes _ _ (Service.callsOnly_ask hChange)

end Lorawan
