import Lorawan.Codec.Uplink
import Lorawan.Crypto.FramePayload
import Lorawan.Service.Activation

/-!
# Uplink delivery

An uplink is decrypted under the session of its device, decoded by the codec of its application, enriched
with the names of the gateways, and handed to the integration.  A payload that cannot be decoded is
reported and delivered without an object.
-/

namespace Lorawan.Service

/-- The object that the codec makes of a payload.  An error of the codec is reported, and then there is
none. -/
def decodePayload (decoder : UplinkDecoder) (d : Device) (a : Application) (fCnt : UInt32)
    (fPort : UInt8) (data : List UInt8) : Service (Option Json) :=
  match decoder a.codec fPort data with
  | .ok object => pure object
  | .error .abort => ExceptT.mk .abort
  | .error (.error e) => do
    let n := Notification.error ⟨.of a d, ErrorNotification.codecType, e.message, fCnt⟩
    record n
    offer n
    return none

/-- A reception report with the name of its gateway.  A time that cannot be read is left out. -/
def rxInfo (gateways : Table Eui64 Gateway) (r : RxReport) : RxInfo where
  gatewayId := r.gatewayId
  name := ((gateways.get? r.gatewayId).map Gateway.name).getD ""
  time := r.time.bind fun s => (Time.parseStrict s).toOption.map Time.Zoned.instant
  rssi := r.rssi
  loraSnr := r.loraSnr
  location := r.location

/-- Delivers an uplink. -/
def uplink (keks : KekSet) (decoder : UplinkDecoder) (r : UplinkRequest) : Service Unit := do
  let some tx := r.txInfo | throw (.invalidArgument "tx_info must not be empty")
  let time ← now
  let d ← updateDevice r.devEui (.markSeen time)
  let a ← getApplication d.applicationId
  if let some context := r.context then
    discard (activate keks d a context)
  let session ← lastActivation d.devEui
  let data ← ofAttempt <| (Attempt.ofExcept
    (FramePayload.decryptUplink session.appSKey session.devAddr r.fCnt r.data)).mapError .crypto
  let object ← decodePayload decoder d a r.fCnt r.fPort data
  let gateways ← getGateways (r.rxInfo.map RxReport.gatewayId)
  let n := Notification.dataUp {
    origin := .of a d
    rxInfo := r.rxInfo.map (rxInfo gateways)
    txInfo := ⟨tx.frequency, tx.dr⟩
    adr := tx.adr
    fCnt := r.fCnt
    fPort := r.fPort
    data := data
    object := object }
  record n
  deliver n

end Lorawan.Service
