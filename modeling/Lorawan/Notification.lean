import Lorawan.Location
import Lorawan.Time.Rfc3339

/-!
# Notifications

What the server tells the integration and the event log about a device.  Every notification names its
device and application itself, so that no reader of it needs to look anything up.  Each of the six kinds
has a writer and a reader of its JSON form.
-/

namespace Lorawan

open Json (Reader Field Slots)
open Json.Outline

/-! ## Parts of notifications -/

/-- The device that a notification is about, and its application. -/
structure Origin where
  applicationId : Int64
  applicationName : String
  deviceName : String
  devEui : Eui64
  deriving DecidableEq

namespace Origin

/-- The members that open every notification. -/
def members (o : Origin) : List (String × Json) :=
  [("applicationID", .ofInt64 o.applicationId), ("applicationName", .text o.applicationName),
    ("deviceName", .text o.deviceName), ("devEui", .text o.devEui.text)]

/-- The fields that open every notification. -/
def fields : List Field :=
  [.required "applicationID" readInt64, .required "applicationName" readString,
    .required "deviceName" readString, .required "devEui" (readIdentifier .eui64)]

/-- Takes the origin from the fields of a notification. -/
def ofSlots (s : Slots) : Except Json.DecodeError Origin := do
  return {
    applicationId := ← s.required "applicationID" readInt64
    applicationName := ← s.required "applicationName" readString
    deviceName := ← s.required "deviceName" readString
    devEui := ← s.required "devEui" (readIdentifier .eui64) }

end Origin

/-- Reads an instant. -/
def Json.Outline.readInstant : Reader Time.Instant := fun o => do
  match Time.parseRelaxed? (← o.readString) with
  | some z => return z.instant
  | none => throw .wrongShape

/-- How one gateway received a frame. -/
structure RxInfo where
  gatewayId : Eui64
  /-- The name of the gateway, empty if it is not known. -/
  name : String
  time : Option Time.Instant
  rssi : Int32
  loraSnr : Float
  location : Option Location

namespace RxInfo

/-- A reception as JSON. -/
def toJson (r : RxInfo) : Json :=
  .object <|
    [("gatewayID", .text r.gatewayId.text), ("name", .text r.name)]
    ++ Json.optionalMember "time" (r.time.map fun t => .text t.text)
    ++ [("rssi", .ofInt32 r.rssi), ("loRaSNR", .ofFloat r.loraSnr)]
    ++ Json.optionalMember "location" (r.location.map Location.toJson)

/-- The fields of a reception. -/
def fields : List Field :=
  [.required "gatewayID" (readIdentifier .eui64), .required "name" readString,
    .optional "time" readInstant, .required "rssi" readInt32, .required "loRaSNR" readFloat,
    .optional "location" Location.read]

/-- Reads a reception. -/
def read : Reader RxInfo := fun o => do
  let s ← Slots.of fields o
  return {
    gatewayId := ← s.required "gatewayID" (readIdentifier .eui64)
    name := ← s.required "name" readString
    time := ← s.optional "time" readInstant
    rssi := ← s.required "rssi" readInt32
    loraSnr := ← s.required "loRaSNR" readFloat
    location := ← s.optional "location" Location.read }

end RxInfo

/-- How a frame was sent. -/
structure TxInfo where
  frequency : Int64
  dr : Int32
  deriving DecidableEq

namespace TxInfo

/-- A transmission as JSON. -/
def toJson (t : TxInfo) : Json :=
  .object [("frequency", .ofInt64 t.frequency), ("dr", .ofInt32 t.dr)]

/-- The fields of a transmission. -/
def fields : List Field := [.required "frequency" readInt64, .required "dr" readInt32]

/-- Reads a transmission. -/
def read : Reader TxInfo := fun o => do
  let s ← Slots.of fields o
  return {
    frequency := ← s.required "frequency" readInt64
    dr := ← s.required "dr" readInt32 }

end TxInfo

/-! ## The six notifications -/

/-- Data from a device, decrypted, and decoded if the application's codec made an object of them. -/
structure DataUp where
  origin : Origin
  rxInfo : List RxInfo
  txInfo : TxInfo
  adr : Bool
  fCnt : UInt32
  fPort : UInt8
  data : List UInt8
  object : Option Json

namespace DataUp

def toJson (n : DataUp) : Json :=
  .object <|
    n.origin.members
    ++ [("rxInfo", .array (n.rxInfo.map RxInfo.toJson)), ("txInfo", n.txInfo.toJson),
      ("adr", .bool n.adr), ("fCnt", .ofUInt32 n.fCnt), ("fPort", .ofUInt8 n.fPort),
      ("data", .text (Base64.encode n.data))]
    ++ Json.optionalMember "object" n.object

/-- The fields, with an object that is nested in fewer than `depth` arrays and objects. -/
def fields (depth : Nat) : List Field :=
  Origin.fields
  ++ [.required "rxInfo" (readList RxInfo.read), .required "txInfo" TxInfo.read,
    .required "adr" readBool, .required "fCnt" readUInt32, .required "fPort" readUInt8,
    .required "data" readBase64, .optional "object" (readJson depth)]

/-- Reads data with an object that is nested in fewer than `depth` arrays and objects. -/
def readWithin (depth : Nat) : Reader DataUp := fun o => do
  let s ← Slots.of (fields depth) o
  return {
    origin := ← Origin.ofSlots s
    rxInfo := ← s.required "rxInfo" (readList RxInfo.read)
    txInfo := ← s.required "txInfo" TxInfo.read
    adr := ← s.required "adr" readBool
    fCnt := ← s.required "fCnt" readUInt32
    fPort := ← s.required "fPort" readUInt8
    data := ← s.required "data" readBase64
    object := ← s.optional "object" (readJson depth) }

/-- Reads data from a document. -/
def read : Reader DataUp := readWithin (maxDepth - 1)

end DataUp

/-- A device has joined and has this address. -/
structure JoinNotification where
  origin : Origin
  devAddr : DevAddr
  deriving DecidableEq

namespace JoinNotification

def toJson (n : JoinNotification) : Json :=
  .object (n.origin.members ++ [("devAddr", .text n.devAddr.text)])

def fields : List Field := Origin.fields ++ [.required "devAddr" (readIdentifier .devAddr)]

def read : Reader JoinNotification := fun o => do
  let s ← Slots.of fields o
  return {
    origin := ← Origin.ofSlots s
    devAddr := ← s.required "devAddr" (readIdentifier .devAddr) }

end JoinNotification

/-- A device has acknowledged a downlink frame, or has failed to. -/
structure AckNotification where
  origin : Origin
  acknowledged : Bool
  fCnt : UInt32
  deriving DecidableEq

namespace AckNotification

def toJson (n : AckNotification) : Json :=
  .object (n.origin.members ++ [("acknowledged", .bool n.acknowledged), ("fCnt", .ofUInt32 n.fCnt)])

def fields : List Field :=
  Origin.fields ++ [.required "acknowledged" readBool, .required "fCnt" readUInt32]

def read : Reader AckNotification := fun o => do
  let s ← Slots.of fields o
  return {
    origin := ← Origin.ofSlots s
    acknowledged := ← s.required "acknowledged" readBool
    fCnt := ← s.required "fCnt" readUInt32 }

end AckNotification

/-- Something went wrong with a frame of a device. -/
structure ErrorNotification where
  origin : Origin
  type : String
  error : String
  fCnt : UInt32
  deriving DecidableEq

namespace ErrorNotification

/-- The type of the errors that an application's codec makes. -/
def codecType : String := "CODEC"

def toJson (n : ErrorNotification) : Json :=
  .object <| n.origin.members
    ++ [("type", .text n.type), ("error", .text n.error), ("fCnt", .ofUInt32 n.fCnt)]

def fields : List Field :=
  Origin.fields
  ++ [.required "type" readString, .required "error" readString, .required "fCnt" readUInt32]

def read : Reader ErrorNotification := fun o => do
  let s ← Slots.of fields o
  return {
    origin := ← Origin.ofSlots s
    type := ← s.required "type" readString
    error := ← s.required "error" readString
    fCnt := ← s.required "fCnt" readUInt32 }

end ErrorNotification

/-- A device has reported the state of its battery and link. -/
structure StatusNotification where
  origin : Origin
  battery : Int32
  margin : Int32
  deriving DecidableEq

namespace StatusNotification

def toJson (n : StatusNotification) : Json :=
  .object (n.origin.members ++ [("battery", .ofInt32 n.battery), ("margin", .ofInt32 n.margin)])

def fields : List Field :=
  Origin.fields ++ [.required "battery" readInt32, .required "margin" readInt32]

def read : Reader StatusNotification := fun o => do
  let s ← Slots.of fields o
  return {
    origin := ← Origin.ofSlots s
    battery := ← s.required "battery" readInt32
    margin := ← s.required "margin" readInt32 }

end StatusNotification

/-- A device was located. -/
structure LocationNotification where
  origin : Origin
  location : Location

namespace LocationNotification

def toJson (n : LocationNotification) : Json :=
  .object (n.origin.members ++ [("location", n.location.toJson)])

def fields : List Field := Origin.fields ++ [.required "location" Location.read]

def read : Reader LocationNotification := fun o => do
  let s ← Slots.of fields o
  return {
    origin := ← Origin.ofSlots s
    location := ← s.required "location" Location.read }

end LocationNotification

/-! ## Notifications of any kind -/

/-- A notification. -/
inductive Notification where
  | dataUp (n : DataUp)
  | join (n : JoinNotification)
  | ack (n : AckNotification)
  | error (n : ErrorNotification)
  | status (n : StatusNotification)
  | location (n : LocationNotification)

namespace Notification

/-- The device that the notification is about, and its application. -/
def origin : Notification → Origin
  | dataUp n => n.origin
  | join n => n.origin
  | ack n => n.origin
  | error n => n.origin
  | status n => n.origin
  | location n => n.origin

/-- A notification as JSON. -/
def toJson : Notification → Json
  | dataUp n => n.toJson
  | join n => n.toJson
  | ack n => n.toJson
  | error n => n.toJson
  | status n => n.toJson
  | location n => n.toJson

end Notification

end Lorawan
