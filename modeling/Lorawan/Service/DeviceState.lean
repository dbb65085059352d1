import Lorawan.Request
import Lorawan.Service.Program

/-!
# Device state

Acknowledgements, errors, status reports and locations: the record of the device is read or changed, and
the integration is told.  It has to take status reports and locations; the others it may lose.
-/

namespace Lorawan.Service

/-- Notes an acknowledgement. -/
def ack (r : AckRequest) : Service Unit := do
  let d ← getDevice r.devEui
  let a ← getApplication d.applicationId
  let n := Notification.ack ⟨.of a d, r.acknowledged, r.fCnt⟩
  record n
  offer n

/-- Notes an error. -/
def error (r : ErrorRequest) : Service Unit := do
  let d ← getDevice r.devEui
  let a ← getApplication d.applicationId
  let n := Notification.error ⟨.of a d, r.type, r.error, r.fCnt⟩
  record n
  offer n

/-- Notes a status report. -/
def status (r : StatusRequest) : Service Unit := do
  let d ← updateDevice r.devEui (.setStatus r.battery r.margin)
  let a ← getApplication d.applicationId
  let n := Notification.status ⟨.of a d, r.battery, r.margin⟩
  record n
  deliver n

/-- Notes a location. -/
def location (r : LocationRequest) : Service Unit := do
  let some l := r.location | throw (.invalidArgument "location must not be empty")
  let d ← updateDevice r.devEui (.setLocation l)
  let a ← getApplication d.applicationId
  let n := Notification.location ⟨.of a d, l⟩
  record n
  deliver n

end Lorawan.Service
