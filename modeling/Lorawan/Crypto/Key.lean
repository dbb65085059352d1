import Lorawan.Crypto.Aes
import Lorawan.Crypto.Error

/-!
# Session and root keys

A sixteen-byte key.  Its description for people never shows the bytes.
-/

namespace Lorawan

/-- A byte string of a fixed length. -/
structure Octets (n : Nat) where
  toList : List UInt8
  length_eq : toList.length = n
  deriving DecidableEq

/-- The octets of a list, if it has the right length. -/
def Octets.ofList? (n : Nat) (bs : List UInt8) : Option (Octets n) :=
  if h : bs.length = n then some ⟨bs, h⟩ else none

/-- A root or session key. -/
structure Aes128Key where
  octets : Octets 16
  deriving DecidableEq

namespace Aes128Key

/-- The bytes of the key. -/
def bytes (key : Aes128Key) : List UInt8 := key.octets.toList

/-- The key with these bytes, of which there must be sixteen. -/
def ofBytes (bs : List UInt8) : Except CryptoError Aes128Key :=
  if h : bs.length = 16 then .ok ⟨bs, h⟩
  else .error (.invalidKeyMaterial s!"expected 16 key bytes, got {bs.length}")

/-- The key that a cipher block holds. -/
def ofBlock (b : Crypto.Block) : Aes128Key := ⟨b.toBytes, b.length_toBytes⟩

/-- A description that hides the bytes. -/
def describe (_ : Aes128Key) : String := "Aes128Key(<redacted>)"

/-- The cipher under this key. -/
def cipher (key : Aes128Key) (x : Crypto.Block) : Crypto.Block :=
  x.encrypt (Crypto.RoundKeys.ofKey key.bytes)

end Aes128Key

end Lorawan
