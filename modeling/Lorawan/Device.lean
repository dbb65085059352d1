import Lorawan.Location
import Lorawan.Time.Instant

/-!
# Devices

What the server knows of an end device, and how requests change it.
-/

namespace Lorawan

/-- An end device.  Its identifier and application are fixed when it is registered. -/
structure Device where
  devEui : Eui64
  applicationId : Int64
  name : String
  lastSeenAt : Option Time.Instant
  battery : Option Int32
  margin : Option Int32
  latitude : Option Float
  longitude : Option Float
  altitude : Option Float

/-- A change to the record of a device. -/
inductive DeviceMutation where
  /-- The device was heard from. -/
  | markSeen (time : Time.Instant)
  | setStatus (battery margin : Int32)
  | setLocation (location : Location)
  | rename (name : String)

namespace Device

/-- Notes when the device was heard from; the time never moves backwards. -/
def markSeen (d : Device) (time : Time.Instant) : Device :=
  match d.lastSeenAt with
  | some current => if time ≤ current then d else { d with lastSeenAt := some time }
  | none => { d with lastSeenAt := some time }

/-- The record after a change. -/
def apply (d : Device) : DeviceMutation → Device
  | .markSeen time => d.markSeen time
  | .setStatus battery margin => { d with battery := some battery, margin := some margin }
  | .setLocation l =>
    { d with latitude := some l.latitude, longitude := some l.longitude, altitude := some l.altitude }
  | .rename name => { d with name := name }

end Device

end Lorawan
