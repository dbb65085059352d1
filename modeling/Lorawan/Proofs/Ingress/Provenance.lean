import Lorawan.Proofs.Ingress.Interleaving
import Lorawan.Proofs.Ingress.Routing
import Lorawan.Proofs.Service.Rows

/-!
# Where the state of a store comes from

Any messages, handled next to each other in any interleaving and with any failures, keep a store in
order (`store_in_order`).

* **From one moment to a later one**: the devices stay the same, with the same names and applications;
  a device that was heard from was heard from no earlier; activations are appended and never changed
  (`Store.Continues`).
* **At every moment**: the state of battery and link is that of one status report, and the position is
  that of one location, unless no such request has got through (`Device.ComesFrom`).  The activations are
  numbered in the order of their list.
-/

namespace Lorawan

/-- Every call within a conversation of a program is one that the program can make. -/
theorem Program.CallsOnly.after {α : Type} {P : Call → Prop} {p q : Program α} {es : List Exchange}
    (hp : p.CallsOnly P) (h : p.After es q) : ∀ e ∈ es, P e.call := by
  induction es generalizing p with
  | nil => simp
  | cons e es ih =>
    cases p with
    | done a => exact h.elim
    | abort => exact h.elim
    | call c next =>
      obtain ⟨answer, rfl, hRest⟩ := h
      exact List.forall_mem_cons.mpr ⟨hp.1, ih (hp.2 answer) hRest⟩

/-- What the last mutation of a part has set it to was set by one of the mutations. -/
theorem DeviceMutation.mem_of_last? {α : Type} {part : DeviceMutation → Option α}
    {ms : List DeviceMutation} {a : α} (h : last? part ms = some a) : ∃ m ∈ ms, part m = some a :=
  List.mem_filterMap.mp (List.mem_of_getLast? h)

/-! ## Continuity -/

/-- Whether a row may have become another one: it is the row of the same device, which was heard from no
earlier. -/
structure Device.Continues (d d' : Device) : Prop where
  devEui : d'.devEui = d.devEui
  applicationId : d'.applicationId = d.applicationId
  name : d'.name = d.name
  lastSeenAt : ∀ time, d.lastSeenAt = some time → ∃ time', d'.lastSeenAt = some time' ∧ time ≤ time'

/-- Whether a store may have become another one: with the same devices, and with activations appended. -/
structure Store.Continues (s s' : Store) : Prop where
  devices : s'.devices.keys = s.devices.keys
  rows : ∀ id d, s.getDevice id = some d → ∃ d', s'.getDevice id = some d' ∧ d.Continues d'
  activations : s.activations <+: s'.activations

/-- A row that was not renamed goes on as it was, whatever else was done to it. -/
theorem Device.Combines.continues {d d' : Device} {ms : List DeviceMutation} (h : d.Combines d' ms)
    (hNames : ∀ m ∈ ms, m.name? = none) : d.Continues d' where
  devEui := h.devEui
  applicationId := h.applicationId
  name := by
    have hNone : ms.filterMap DeviceMutation.name? = [] := List.filterMap_eq_nil_iff.mpr hNames
    rw [h.name, DeviceMutation.last?, hNone]
    rfl
  lastSeenAt := by
    intro time hTime
    have hListed : time ∈ d.lastSeenAt.toList ++ ms.filterMap DeviceMutation.seen? := by
      rw [hTime]
      exact List.mem_append_left _ List.mem_cons_self
    exact h.lastSeenAt.2 time hListed

namespace Ingress

variable {σ : Type} {k : Conditions σ} {server : Server} {messages : List Message} {w : World σ}
  {turns : List Nat} {id : Eui64}

/-! ## Moments of a batch -/

namespace Batch

variable {b : Batch σ}

theorem play_append (k : Conditions σ) (b : Batch σ) (earlier later : List Nat) :
    b.play k (earlier ++ later) = (b.play k earlier).play k later :=
  List.foldl_append

theorem trace_append (k : Conditions σ) (b : Batch σ) (earlier later : List Nat) :
    b.trace k (earlier ++ later) = b.trace k earlier ++ (b.play k earlier).trace k later := by
  induction earlier generalizing b with
  | nil => rfl
  | cons number earlier ih => rw [List.cons_append, trace, trace, play_cons, ih, List.append_assoc]

/-- Only the handlers of a batch have exchanges in its trace. -/
theorem lt_of_mem_trace {number : Nat} {e : Exchange} (h : (number, e) ∈ b.trace k turns) :
    number < b.handlers.length := by
  obtain ⟨before, after, hTrace⟩ := List.append_of_mem h
  obtain ⟨earlier, -, -, -, hExchange⟩ := trace_eq_append_cons hTrace
  rw [← length_play k b earlier]
  unfold exchange? at hExchange
  split at hExchange
  · next hHandler => exact (List.getElem?_eq_some_iff.mp hHandler).1
  · cases hExchange

end Batch

/-! ## Requests behind changes -/

/-- A message changes no device in a way that it does not ask for as a request. -/
theorem route_changes (server : Server) (subject : String) (payload : List UInt8) :
    (route server subject payload).CallsOnly fun c => ∀ id m, c = .updateDevice id m →
      ∃ r, IsRequest subject payload r ∧ r.Changes id m := by
  by_cases hRequest : ∃ r, IsRequest subject payload r
  · obtain ⟨r, hr⟩ := hRequest
    rw [route_eq_handler (request?_eq_some_iff.mpr hr)]
    refine Program.CallsOnly.bind ?_ fun _ => trivial
    exact (server.handle_changes r).mono fun c hc id m hUpdate => ⟨r, hr, hc id m hUpdate⟩
  · rw [route_of_not_request hRequest]
    trivial

/-- Whether, within some turns, the handler of a message that is this request has changed a device in
this way. -/
def HasChanged (k : Conditions σ) (server : Server) (messages : List Message) (w : World σ)
    (turns : List Nat) (r : Request) (id : Eui64) (m : DeviceMutation) : Prop :=
  ∃ number message d, messages[number]? = some message ∧
    IsRequest message.subject message.payload r ∧
    (number, ⟨.updateDevice id m, .ok (some d)⟩) ∈ (Batch.start server messages w).trace k turns

/-- The mutations that the handlers of some messages have made of a device within some turns. -/
def mutations (k : Conditions σ) (server : Server) (messages : List Message) (w : World σ)
    (turns : List Nat) (id : Eui64) : List DeviceMutation :=
  (((Batch.start server messages w).trace k turns).map Prod.snd).filterMap (Exchange.mutation? id)

/-- Every mutation that was made of a device was made for a request that asks for it. -/
theorem exists_hasChanged {m : DeviceMutation} (h : m ∈ mutations k server messages w turns id) :
    ∃ r : Request, r.Changes id m ∧ HasChanged k server messages w turns r id m := by
  obtain ⟨e, hMember, hMutation⟩ := List.mem_filterMap.mp h
  obtain ⟨d, rfl⟩ := Exchange.mutation?_eq_some hMutation
  obtain ⟨⟨number, _⟩, hTrace, rfl⟩ := List.mem_map.mp hMember
  -- the handler that has made the change is that of a message
  have hNumber : number < messages.length := by
    simpa [Batch.start] using Batch.lt_of_mem_trace hTrace
  obtain ⟨message, hMessage⟩ : ∃ message, messages[number]? = some message :=
    ⟨_, List.getElem?_eq_getElem hNumber⟩
  have hHandler : (Batch.start server messages w).handlers[number]? =
      some (route server message.subject message.payload) := by
    simp [Batch.start, hMessage]
  obtain ⟨q, -, hAfter⟩ := Batch.after_trace turns hHandler
  have hOwn := Batch.mem_own_iff.mpr hTrace
  obtain ⟨r, hRequest, hChanges⟩ :=
    (route_changes server message.subject message.payload).after hAfter _ hOwn id m rfl
  exact ⟨r, hChanges, number, message, d, hMessage, hRequest, hTrace⟩

/-- No message renames a device. -/
theorem name?_of_mem_mutations {m : DeviceMutation}
    (h : m ∈ mutations k server messages w turns id) : m.name? = none := by
  obtain ⟨r, hChanges, -⟩ := exists_hasChanged h
  cases hChanges <;> rfl

/-! ## The law -/

/-- The store after some turns of the handlers of some messages. -/
def storeAfter (k : Conditions σ) (server : Server) (messages : List Message) (w : World σ)
    (turns : List Nat) : Store :=
  ((Batch.start server messages w).play k turns).world.store

/-- Whether a row has its state of battery and link, and its position, from one request each that has
changed it within some turns, or else as they were at first. -/
structure ComesFrom (k : Conditions σ) (server : Server) (messages : List Message) (w : World σ)
    (turns : List Nat) (id : Eui64) (first d : Device) : Prop where
  status : (d.battery, d.margin) = (first.battery, first.margin) ∨
    ∃ r : StatusRequest, r.devEui = id ∧
      HasChanged k server messages w turns (.status r) id (.setStatus r.battery r.margin) ∧
      (d.battery, d.margin) = (some r.battery, some r.margin)
  location : (d.latitude, d.longitude, d.altitude) = (first.latitude, first.longitude, first.altitude) ∨
    ∃ (r : LocationRequest) (l : Location), r.devEui = id ∧ r.location = some l ∧
      HasChanged k server messages w turns (.location r) id (.setLocation l) ∧
      (d.latitude, d.longitude, d.altitude) = (some l.latitude, some l.longitude, some l.altitude)

/-- A row has its state and its position from the last requests of these kinds. -/
theorem comesFrom_of_combines {first d : Device}
    (h : first.Combines d (mutations k server messages w turns id)) :
    ComesFrom k server messages w turns id first d := by
  constructor
  · have hStatus := h.status
    cases hLast : DeviceMutation.last? DeviceMutation.status? (mutations k server messages w turns id) with
    | none =>
      rw [hLast] at hStatus
      exact Or.inl hStatus
    | some state =>
      rw [hLast] at hStatus
      obtain ⟨m, hMember, hm⟩ := DeviceMutation.mem_of_last? hLast
      obtain ⟨r, hChanges, hChanged⟩ := exists_hasChanged hMember
      -- of all requests only a status report sets the state
      cases hChanges with
      | uplink r time => cases hm
      | status r =>
        obtain rfl := Option.some.inj hm
        exact Or.inr ⟨r, rfl, hChanged, hStatus⟩
      | location r hLocation => cases hm
  · have hPosition := h.location
    cases hLast : DeviceMutation.last? DeviceMutation.location?
        (mutations k server messages w turns id) with
    | none =>
      rw [hLast] at hPosition
      exact Or.inl hPosition
    | some position =>
      rw [hLast] at hPosition
      obtain ⟨m, hMember, hm⟩ := DeviceMutation.mem_of_last? hLast
      obtain ⟨r, hChanges, hChanged⟩ := exists_hasChanged hMember
      cases hChanges with
      | uplink r time => cases hm
      | status r => cases hm
      | location r hLocation =>
        obtain rfl := Option.some.inj hm
        exact Or.inr ⟨r, _, rfl, hLocation, hChanged, hPosition⟩

theorem storeAfter_continues (k : Conditions σ) (server : Server) (messages : List Message)
    (w : World σ) (earlier later : List Nat) :
    (storeAfter k server messages w earlier).Continues
      (storeAfter k server messages w (earlier ++ later)) := by
  have hPlays := Batch.plays_trace k ((Batch.start server messages w).play k earlier) later
  rw [← Batch.play_append] at hPlays
  refine ⟨hPlays.keys, fun id d hRow => ?_, ?_⟩
  · obtain ⟨d', hRow', hCombines⟩ := hPlays.combines hRow
    refine ⟨d', hRow', hCombines.continues fun m hm => ?_⟩
    -- what the handlers do in the later turns they do in all of them
    have hMade : m ∈ mutations k server messages w (earlier ++ later) id := by
      unfold mutations
      rw [Batch.trace_append, List.map_append, List.filterMap_append]
      exact List.mem_append_right _ hm
    exact name?_of_mem_mutations hMade
  · have hAppended := hPlays.activations
    exact ⟨_, hAppended.symm⟩

/-- Whatever messages are handled in whatever interleaving and with whatever failures: from any moment to
any later one the devices stay the same, none was heard from earlier than before or not at all any more,
and activations are only appended.  At any moment a device has its battery and margin from one and the
same status report, and its latitude, longitude and altitude from one and the same location, unless they
are as they were at first.  The activations bear the numbers from one on in the order of their list. -/
theorem store_in_order (k : Conditions σ) (server : Server) (messages : List Message)
    (hBuilt : w.store.IsBuilt) (earlier later : List Nat) :
    (storeAfter k server messages w earlier).Continues
        (storeAfter k server messages w (earlier ++ later)) ∧
      (∀ id first, w.store.getDevice id = some first →
        ∃ d, (storeAfter k server messages w earlier).getDevice id = some d ∧
          ComesFrom k server messages w earlier id first d) ∧
      (storeAfter k server messages w earlier).activations.map Activation.id =
        List.range' 1 (storeAfter k server messages w earlier).activations.length := by
  have hPlays := Batch.plays_trace k (Batch.start server messages w) earlier
  refine ⟨storeAfter_continues k server messages w earlier later, fun id first hRow => ?_, ?_⟩
  · obtain ⟨d, hLater, hCombines⟩ := hPlays.combines hRow
    exact ⟨d, hLater, comesFrom_of_combines hCombines⟩
  · exact (hPlays.isBuilt hBuilt).ids

/-- A status report that gets through is where the battery of its device comes from. -/
theorem store_in_order_sample :
    (Service.Sample.world [] ⟨[], []⟩).store.IsBuilt ∧
      ∃ r : StatusRequest, r.devEui = Service.Sample.device.devEui ∧ r.battery = 80 ∧
        HasChanged Service.Sample.conditions ⟨.empty, .ofCodec⟩
          [⟨"ns.status", Sample.statusReport, none⟩] (Service.Sample.world [] ⟨[], []⟩) [0]
          (.status r) Service.Sample.device.devEui (.setStatus r.battery r.margin) := by
  have hBuilt : (Service.Sample.world [] ⟨[], []⟩).store.IsBuilt :=
    (Store.IsBuilt.empty.insertDevice Service.Sample.device).insertApplication
      Service.Sample.application
  obtain ⟨-, hRows, -⟩ := store_in_order Service.Sample.conditions ⟨.empty, .ofCodec⟩
    [⟨"ns.status", Sample.statusReport, none⟩] hBuilt [0] []
  obtain ⟨d, hRow, hComesFrom⟩ := hRows Service.Sample.device.devEui Service.Sample.device rfl
  -- the first turn of the handler is the change of the row
  have hBattery : ((storeAfter Service.Sample.conditions ⟨.empty, .ofCodec⟩
      [⟨"ns.status", Sample.statusReport, none⟩] (Service.Sample.world [] ⟨[], []⟩) [0]).getDevice
        Service.Sample.device.devEui).map Device.battery = some (some 80) := by
    decide +kernel
  rw [hRow] at hBattery
  have hBattery : d.battery = some 80 := Option.some.inj hBattery
  refine ⟨hBuilt, ?_⟩
  rcases hComesFrom.status with hFirst | ⟨r, hDevice, hChanged, hState⟩
  · have hNone : d.battery = none := (Prod.mk.inj hFirst).1
    rw [hBattery] at hNone
    cases hNone
  · have hReported : d.battery = some r.battery := (Prod.mk.inj hState).1
    rw [hBattery] at hReported
    exact ⟨r, hDevice, (Option.some.inj hReported).symm, hChanged⟩

end Ingress

end Lorawan
