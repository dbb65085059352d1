import Lorawan.Crypto.Envelope
import Lorawan.Event

/-!
# Requests of the network server

What the network server asks of the application server: to deliver an uplink, and to note an
acknowledgement, an error, a status report or a location.  Each kind has a reader of its JSON form.
-/

namespace Lorawan

open Json (Reader Field Slots)
open Json.Outline

/-! ## Parts of an uplink -/

/-- How one gateway received the frame. -/
structure RxReport where
  gatewayId : Eui64
  /-- When it was received, if the gateway has a clock, as text that may not be a time. -/
  time : Option String
  rssi : Int32
  loraSnr : Float
  location : Option Location

namespace RxReport

def fields : List Field :=
  [.required "gatewayID" (readIdentifier .eui64), .defaulted "time" (readOption readString),
    .required "rssi" readInt32, .required "loRaSNR" readFloat,
    .defaulted "location" (readOption Location.read)]

def read : Reader RxReport := fun o => do
  let s ← Slots.of fields o
  return {
    gatewayId := ← s.required "gatewayID" (readIdentifier .eui64)
    time := ← s.optional "time" readString
    rssi := ← s.required "rssi" readInt32
    loraSnr := ← s.required "loRaSNR" readFloat
    location := ← s.optional "location" Location.read }

end RxReport

/-- How the frame was sent, and whether the network adapts the device's data rate. -/
structure TxReport where
  frequency : Int64
  dr : Int32
  adr : Bool
  deriving DecidableEq

namespace TxReport

def fields : List Field :=
  [.required "frequency" readInt64, .required "dr" readInt32, .defaulted "adr" readBool]

def read : Reader TxReport := fun o => do
  let s ← Slots.of fields o
  return {
    frequency := ← s.required "frequency" readInt64
    dr := ← s.required "dr" readInt32
    adr := ← s.defaulted "adr" readBool false }

end TxReport

/-- The session of a device that has just joined.  The first uplink after the join carries it. -/
structure ActivationContext where
  devAddr : DevAddr
  appSKey : Option KeyEnvelope
  deriving DecidableEq

namespace ActivationContext

def fields : List Field :=
  [.required "devAddr" (readIdentifier .devAddr), .defaulted "appSKey" (readOption KeyEnvelope.read)]

def read : Reader ActivationContext := fun o => do
  let s ← Slots.of fields o
  return {
    devAddr := ← s.required "devAddr" (readIdentifier .devAddr)
    appSKey := ← s.optional "appSKey" KeyEnvelope.read }

end ActivationContext

/-! ## The five requests -/

/-- An uplink frame, whose data are still encrypted. -/
structure UplinkRequest where
  devEui : Eui64
  txInfo : Option TxReport
  rxInfo : List RxReport
  fCnt : UInt32
  fPort : UInt8
  data : List UInt8
  context : Option ActivationContext

namespace UplinkRequest

def fields : List Field :=
  [.required "devEui" (readIdentifier .eui64), .defaulted "txInfo" (readOption TxReport.read),
    .defaulted "rxInfo" (readList RxReport.read), .required "fCnt" readUInt32,
    .required "fPort" readUInt8, .required "data" readBase64,
    .defaulted "deviceActivationContext" (readOption ActivationContext.read)]

def read : Reader UplinkRequest := fun o => do
  let s ← Slots.of fields o
  return {
    devEui := ← s.required "devEui" (readIdentifier .eui64)
    txInfo := ← s.optional "txInfo" TxReport.read
    rxInfo := ← s.defaulted "rxInfo" (readList RxReport.read) []
    fCnt := ← s.required "fCnt" readUInt32
    fPort := ← s.required "fPort" readUInt8
    data := ← s.required "data" readBase64
    context := ← s.optional "deviceActivationContext" ActivationContext.read }

end UplinkRequest

/-- A device has acknowledged a downlink frame, or has failed to. -/
structure AckRequest where
  devEui : Eui64
  fCnt : UInt32
  acknowledged : Bool
  deriving DecidableEq

namespace AckRequest

def fields : List Field :=
  [.required "devEui" (readIdentifier .eui64), .required "fCnt" readUInt32,
    .required "acknowledged" readBool]

def read : Reader AckRequest := fun o => do
  let s ← Slots.of fields o
  return {
    devEui := ← s.required "devEui" (readIdentifier .eui64)
    fCnt := ← s.required "fCnt" readUInt32
    acknowledged := ← s.required "acknowledged" readBool }

end AckRequest

/-- The network server has found an error with a device. -/
structure ErrorRequest where
  devEui : Eui64
  type : String
  error : String
  fCnt : UInt32
  deriving DecidableEq

namespace ErrorRequest

def fields : List Field :=
  [.required "devEui" (readIdentifier .eui64), .required "type" readString,
    .required "error" readString, .defaulted "fCnt" readUInt32]

def read : Reader ErrorRequest := fun o => do
  let s ← Slots.of fields o
  return {
    devEui := ← s.required "devEui" (readIdentifier .eui64)
    type := ← s.required "type" readString
    error := ← s.required "error" readString
    fCnt := ← s.defaulted "fCnt" readUInt32 0 }

end ErrorRequest

/-- A device has reported the state of its battery and link. -/
structure StatusRequest where
  devEui : Eui64
  battery : Int32
  margin : Int32
  deriving DecidableEq

namespace StatusRequest

def fields : List Field :=
  [.required "devEui" (readIdentifier .eui64), .required "battery" readInt32,
    .required "margin" readInt32]

def read : Reader StatusRequest := fun o => do
  let s ← Slots.of fields o
  return {
    devEui := ← s.required "devEui" (readIdentifier .eui64)
    battery := ← s.required "battery" readInt32
    margin := ← s.required "margin" readInt32 }

end StatusRequest

/-- A device was located. -/
structure LocationRequest where
  devEui : Eui64
  location : Option Location

namespace LocationRequest

def fields : List Field :=
  [.required "devEui" (readIdentifier .eui64), .defaulted "location" (readOption Location.read)]

def read : Reader LocationRequest := fun o => do
  let s ← Slots.of fields o
  return {
    devEui := ← s.required "devEui" (readIdentifier .eui64)
    location := ← s.optional "location" Location.read }

end LocationRequest

/-! ## Requests of any kind -/

/-- A request. -/
inductive Request where
  | uplink (r : UplinkRequest)
  | ack (r : AckRequest)
  | error (r : ErrorRequest)
  | status (r : StatusRequest)
  | location (r : LocationRequest)

namespace Request

/-- The reader for the request of a kind of event, if there are such requests: none announce a join. -/
def reader? : EventType → Option (Reader Request)
  | .uplink => some fun o => .uplink <$> UplinkRequest.read o
  | .ack => some fun o => .ack <$> AckRequest.read o
  | .error => some fun o => .error <$> ErrorRequest.read o
  | .status => some fun o => .status <$> StatusRequest.read o
  | .location => some fun o => .location <$> LocationRequest.read o
  | .join => none

end Request

end Lorawan
