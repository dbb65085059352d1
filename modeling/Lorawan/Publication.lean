import Lorawan.Event

/-!
# Publications

What is published on the message broker: JSON under a subject.  Notifications go to
`root.application.ID.device.EUI.KIND`, entries of a device's event log to `root.device.EUI.event.KIND`.
The subject names the source, so that a subscriber can select by application, device and kind.
-/

namespace Lorawan

/-- The last part of a notification's subject. -/
def EventType.topic : EventType → String
  | .uplink => "rx"
  | t => t.label

/-- The parts of a subject between dots. -/
def subjectOf (parts : List String) : String := ".".intercalate parts

/-- The subject of notifications of a kind about a device of an application. -/
def notificationSubject (root : String) (applicationId : Int64) (devEui : Eui64) (type : EventType) :
    String :=
  subjectOf [root, "application", toString applicationId.toInt, "device", devEui.text, type.topic]

/-- The subject of log entries of a kind about a device. -/
def entrySubject (root : String) (devEui : Eui64) (type : EventType) : String :=
  subjectOf [root, "device", devEui.text, "event", type.label]

/-- A JSON document on its way to a subject. -/
structure Publication where
  subject : String
  body : Json

/-- The publication of a notification. -/
def Notification.publication (root : String) (n : Notification) : Publication :=
  ⟨notificationSubject root n.origin.applicationId n.origin.devEui n.eventType, n.toJson⟩

/-- The publication of an entry of a device's event log. -/
def EventLogEntry.publication (root : String) (devEui : Eui64) (e : EventLogEntry) : Publication :=
  ⟨entrySubject root devEui e.type, e.toJson⟩

end Lorawan
