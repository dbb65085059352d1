import Lorawan.Notification

/-!
# Events of a device

The kinds of event that happen to a device, and the entries of its event log.  An entry holds the
notification of its event as JSON.
-/

namespace Lorawan

open Json (Reader Field Slots DecodeError Outline)
open Json.Outline

/-- The kinds of event. -/
inductive EventType where
  | uplink
  | ack
  | error
  | status
  | location
  | join
  deriving DecidableEq, Repr

namespace EventType

/-- All kinds of event. -/
def all : List EventType := [.uplink, .ack, .error, .status, .location, .join]

/-- The name of a kind. -/
def label : EventType → String
  | uplink => "uplink"
  | ack => "ack"
  | error => "error"
  | status => "status"
  | location => "location"
  | join => "join"

/-- The kind of a name. -/
def ofLabel? (s : String) : Option EventType := all.find? (·.label = s)

/-- The kind of a name, which must be one. -/
def ofLabel (s : String) : Except DecodeError EventType :=
  match ofLabel? s with
  | some t => .ok t
  | none => .error (.unknownVariant s (all.map label))

/-- A kind as JSON. -/
def toJson (t : EventType) : Json := .text t.label

/-- Reads a kind from a document: its name, or an object whose only member has that name and is null.
What is neither is taken for malformed text. -/
def read : Reader EventType
  | .text (some s) => ofLabel s
  | .object ((some name, value) :: rest) closed => do
    let t ← ofLabel name
    match value with
    | .null => if rest.isEmpty && closed then return t else throw .malformed
    | o => throw o.mismatch
  | _ => .error .malformed

/-- Reads a kind from a value that is well formed: its name, or an object as in a document. -/
def ofJson : Json → Except DecodeError EventType
  | .text s => ofLabel s
  | .object [(name, value)] => do
    let t ← ofLabel name
    match value with
    | .null => return t
    | _ => throw .wrongShape
  | _ => .error .wrongShape

end EventType

/-- The kind of event that a notification tells of. -/
def Notification.eventType : Notification → EventType
  | dataUp _ => .uplink
  | join _ => .join
  | ack _ => .ack
  | error _ => .error
  | status _ => .status
  | location _ => .location

/-- An entry of a device's event log. -/
structure EventLogEntry where
  type : EventType
  payload : Json

namespace EventLogEntry

/-- The entry that a notification makes. -/
def ofNotification (n : Notification) : EventLogEntry := ⟨n.eventType, n.toJson⟩

/-- An entry as JSON. -/
def toJson (e : EventLogEntry) : Json :=
  .object [("type", e.type.toJson), ("payload", e.payload)]

/-- The fields of an entry, whose payload is nested in fewer than `depth` arrays and objects. -/
def fields (depth : Nat) : List Field :=
  [.required "type" EventType.read, .required "payload" (readJson depth)]

/-- Reads an entry whose payload is nested in fewer than `depth` arrays and objects. -/
def readWithin (depth : Nat) : Reader EventLogEntry := fun o => do
  let s ← Slots.of (fields depth) o
  return {
    type := ← s.required "type" EventType.read
    payload := ← s.required "payload" (readJson depth) }

/-- Reads an entry from a document. -/
def read : Reader EventLogEntry := readWithin (maxDepth - 1)

end EventLogEntry

end Lorawan
