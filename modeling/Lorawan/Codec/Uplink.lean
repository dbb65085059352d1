import Lorawan.Codec.PayloadCodec
import Lorawan.Codec.Script
import Lorawan.ServiceError

/-!
# Decoding uplinks

The payload of an uplink is decoded by the codec of the application.  An application without a codec has
no objects.
-/

namespace Lorawan

namespace PayloadCodec

/-- The name of a codec in errors, if there is one. -/
def name? : PayloadCodec → Option String
  | none => Option.none
  | cayenneLpp => some "CAYENNE_LPP"
  | customScript .. => some "CUSTOM_CEL"

/-- The object that a codec makes of a payload. -/
def decode (port : UInt8) (payload : List UInt8) :
    PayloadCodec → Attempt PayloadError (Option Json)
  | none => .ok Option.none
  | cayenneLpp => some <$> Attempt.ofExcept (Cayenne.decode payload)
  | customScript _ decoder => some <$> Script.decode decoder port payload

end PayloadCodec

/-- Makes an object of the payload on a port, unless the codec makes none. -/
abbrev UplinkDecoder := PayloadCodec → UInt8 → List UInt8 → Attempt ServiceError (Option Json)

/-- The decoder that applies the codec.  Its errors name the codec. -/
def UplinkDecoder.ofCodec : UplinkDecoder := fun codec port payload =>
  (codec.decode port payload).mapError fun e =>
    .codec (codec.name?.getD "" ++ " decode error: " ++ e.message)

end Lorawan
