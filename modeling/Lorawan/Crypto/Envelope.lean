import Lorawan.Crypto.Kek
import Lorawan.Json.Shape

/-!
# Key envelopes as JSON

The wrapped or plain key stands in base64.  The label of the key-encryption key may be left out, which
means that the key is not wrapped.
-/

namespace Lorawan.KeyEnvelope

open Json (Reader Field Slots)
open Json.Outline

/-- An envelope as JSON. -/
def toJson (e : KeyEnvelope) : Json :=
  .object [("aesKey", .text (Base64.encode e.aesKey)), ("kekLabel", .text e.kekLabel)]

/-- The fields of an envelope. -/
def fields : List Field := [.required "aesKey" readBase64, .defaulted "kekLabel" readString]

/-- Reads an envelope. -/
def read : Reader KeyEnvelope := fun o => do
  let s ← Slots.of fields o
  return {
    aesKey := ← s.required "aesKey" readBase64
    kekLabel := ← s.defaulted "kekLabel" readString "" }

end Lorawan.KeyEnvelope
