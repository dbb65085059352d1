import Lorawan.Proofs.Service.Conversation
import Lorawan.Service.DeviceState

/-!
# The course of a report

An acknowledgement, an error, a status report and a location take the same course.  The device is looked
up or changed, and its application is looked up; then a notification about the two is logged and handed
over.  The four differ in how they come by the device, in what they tell, and in what they make of the
integration's answer.
-/

namespace Lorawan.Service

/-- The device that a service comes by, with its application. -/
def withApplication (device : Service Device) : Service (Device × Application) := do
  let d ← device
  let a ← getApplication d.applicationId
  return (d, a)

/-- Logs and hands over what there is to tell of a device and its application. -/
def report (device : Service Device) (tell : Device → Application → Notification)
    (settle : Except ServiceError Unit → Except ServiceError Unit) : Service Unit := do
  let (d, a) ← withApplication device
  record (tell d a)
  ask (.send (tell d a)) settle

/-! ## The four reports -/

/-- What an acknowledgement tells. -/
def acknowledged (r : AckRequest) (d : Device) (a : Application) : Notification :=
  .ack ⟨.of a d, r.acknowledged, r.fCnt⟩

/-- What an error tells. -/
def failed (r : ErrorRequest) (d : Device) (a : Application) : Notification :=
  .error ⟨.of a d, r.type, r.error, r.fCnt⟩

/-- What a status report tells. -/
def measured (r : StatusRequest) (d : Device) (a : Application) : Notification :=
  .status ⟨.of a d, r.battery, r.margin⟩

/-- What a location tells. -/
def positioned (l : Location) (d : Device) (a : Application) : Notification :=
  .location ⟨.of a d, l⟩

theorem ack_eq (r : AckRequest) :
    ack r = report (getDevice r.devEui) (acknowledged r) fun _ => .ok () := by
  unfold report withApplication
  simp only [bind_assoc, pure_bind]
  rfl

theorem error_eq (r : ErrorRequest) :
    error r = report (getDevice r.devEui) (failed r) fun _ => .ok () := by
  unfold report withApplication
  simp only [bind_assoc, pure_bind]
  rfl

theorem status_eq (r : StatusRequest) :
    status r = report (updateDevice r.devEui (.setStatus r.battery r.margin)) (measured r)
      (Except.mapError dispatchError) := by
  unfold report withApplication status
  simp only [bind_assoc, pure_bind, deliver_eq]
  rfl

/-- A location that holds none is refused before the first call. -/
theorem location_eq_throw {r : LocationRequest} (h : r.location = none) :
    location r = throw (.invalidArgument "location must not be empty") := by
  unfold location
  rw [h]

theorem location_eq {r : LocationRequest} {l : Location} (h : r.location = some l) :
    location r = report (updateDevice r.devEui (.setLocation l)) (positioned l)
      (Except.mapError dispatchError) := by
  unfold report withApplication location
  simp only [h, bind_assoc, pure_bind, deliver_eq]
  rfl

/-! ## Their calls -/

variable {device : Service Device} {tell : Device → Application → Notification}
  {settle : Except ServiceError Unit → Except ServiceError Unit} {P : Call → Prop}

theorem withApplication_callsOnly (hDevice : device.CallsOnly P)
    (hApplication : ∀ id, P (.getApplication id)) : (withApplication device).CallsOnly P := by
  refine CallsOnly.bind hDevice fun d => ?_
  rw [getApplication_eq]
  exact CallsOnly.bind (callsOnly_ask (hApplication _)) fun a => callsOnly_pure

theorem report_callsOnly (hDevice : device.CallsOnly P) (hApplication : ∀ id, P (.getApplication id))
    (hLog : ∀ devEui entry, P (.log devEui entry)) (hSend : ∀ n, P (.send n)) :
    (report device tell settle).CallsOnly P := by
  refine CallsOnly.bind (withApplication_callsOnly hDevice hApplication) fun da => ?_
  exact CallsOnly.bind (callsOnly_ask (hLog _ _)) fun _ => callsOnly_ask (hSend _)

/-- The ways in which a report ends: with its device and its application, of which it has told, and
without one of the two. -/
theorem report_cases {es : List Exchange} {o : Option (Except ServiceError Unit)}
    (h : (report device tell settle).Ends es o) :
    (∃ d a found logged sent, (withApplication device).Gives found (d, a) ∧
      es = found ++ [⟨.log (tell d a).origin.devEui (.ofNotification (tell d a)), logged⟩,
        ⟨.send (tell d a), sent⟩] ∧
      o = some (settle sent)) ∨
    ∃ o', (withApplication device).Ends es o' ∧ ∀ found, o' ≠ some (.ok found) := by
  unfold report at h
  rcases ends_bind_cases h with ⟨⟨d, a⟩, found, rest, rfl, hFound, hTold⟩ | hStopped
  · simp only [record_eq, ends_ask_bind_iff] at hTold
    obtain ⟨logged, _, rfl, hSent⟩ := hTold
    obtain ⟨sent, rfl, rfl⟩ := ends_ask_iff.mp hSent
    exact Or.inl ⟨d, a, found, logged, sent, hFound, rfl, rfl⟩
  · exact Or.inr hStopped

end Lorawan.Service
