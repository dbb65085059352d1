/-!
# Errors of the cryptographic operations

One constructor for each cause, and the wording of each in `CryptoError.message`.  No wording holds a
byte of a key: sizes and labels are all that is shown.
-/

namespace Lorawan

/-- Why a key or a payload was refused. -/
inductive CryptoError where
  /-- Key material of the wrong size or shape. -/
  | invalidKeyMaterial (detail : String)
  /-- No key-encryption key has this label. -/
  | unknownKek (label : String)
  /-- The cipher does not take a key of this size. -/
  | cipherInit (detail : String)
  /-- The wrapped key was altered, or wrapped under another key. -/
  | keyUnwrapIntegrity
  /-- The payload is longer than the keystream of one frame. -/
  | payloadTooLarge (size limit : Nat)
  deriving DecidableEq, Repr

/-- The wording of a cryptographic error. -/
def CryptoError.message : CryptoError → String
  | .invalidKeyMaterial detail => s!"invalid key material: {detail}"
  | .unknownKek label => s!"unknown kek label: {label}"
  | .cipherInit detail => s!"cipher initialization failed: {detail}"
  | .keyUnwrapIntegrity => "key unwrap integrity check failed"
  | .payloadTooLarge size limit => s!"payload of {size} bytes exceeds the {limit} byte keystream"

end Lorawan
