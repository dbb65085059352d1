import Lorawan.Crypto.Key
import Lorawan.Identifier

/-!
# Session keys of a join

The root key encrypts one block that names the kind of session key, the join nonces and the network; the
result is the session key.  Every field of more than one byte stands least significant byte first.
-/

namespace Lorawan

/-- Which of the two session keys of a join. -/
inductive SessionKeyKind where
  | network
  | application
  deriving DecidableEq, Repr

/-- The byte that opens the derivation block. -/
def SessionKeyKind.code : SessionKeyKind → UInt8
  | .network => 1
  | .application => 2

/-- What the two sides of a join agree on: the network, the nonce of the join server and the nonce of
the device, each most significant byte first. -/
structure JoinParameters where
  netId : NetId
  appNonce : Octets 3
  devNonce : Octets 2
  deriving DecidableEq

namespace JoinParameters

/-- The bytes that the root key encrypts. -/
def derivationBytes (kind : SessionKeyKind) (p : JoinParameters) : List UInt8 :=
  kind.code :: p.appNonce.toList.reverse ++ p.netId.bytes.reverse ++ p.devNonce.toList.reverse
    ++ List.replicate 7 0

theorem length_derivationBytes (kind : SessionKeyKind) (p : JoinParameters) :
    (p.derivationBytes kind).length = 16 := by
  simp [derivationBytes, p.appNonce.length_eq, p.netId.size_eq, p.devNonce.length_eq,
    IdentifierKind.size]

end JoinParameters

namespace Aes128Key

/-- The session key of the given kind under this root key. -/
def deriveSessionKey (root : Aes128Key) (kind : SessionKeyKind) (p : JoinParameters) : Aes128Key :=
  ofBlock (root.cipher (.ofBytes (p.derivationBytes kind)))

/-- The key that the cipher makes of one block.  It takes root keys of sixteen bytes, and no less or more
than a block. -/
def encryptToKey (root block : List UInt8) : Except CryptoError Aes128Key :=
  if block.length ≠ 16 then
    .error (.invalidKeyMaterial s!"block-size of 16 bytes is expected, got {block.length}")
  else if root.length ≠ 16 then .error (.invalidKeyMaterial "Invalid Length")
  else ofBytes ((Crypto.Block.ofBytes block).encrypt (.ofKey root)).toBytes

/-- The session key of the given kind under this root key, with every size checked on the way. -/
def checkedSessionKey (root : Aes128Key) (kind : SessionKeyKind) (p : JoinParameters) :
    Except CryptoError Aes128Key :=
  encryptToKey root.bytes (p.derivationBytes kind)

/-- The network session key. -/
def deriveNetworkKey (root : Aes128Key) (p : JoinParameters) : Aes128Key :=
  root.deriveSessionKey .network p

/-- The application session key. -/
def deriveApplicationKey (root : Aes128Key) (p : JoinParameters) : Aes128Key :=
  root.deriveSessionKey .application p

end Aes128Key

end Lorawan
