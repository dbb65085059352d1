import Lorawan.Crypto.Key
import Lorawan.Identifier

/-!
# Frame payload encryption

A payload is combined with a keystream by exclusive or, so that one function encrypts and decrypts.
Block `n` of the keystream is the encryption of a block that holds the direction, the device address, the
frame counter and `n`, counted from one in a single byte: 255 blocks, or 4080 bytes, are the limit.
-/

namespace Lorawan.FramePayload

/-- The way a frame travels. -/
inductive Direction where
  | uplink
  | downlink
  deriving DecidableEq, Repr

/-- The byte that stands for a direction. -/
def Direction.code : Direction → UInt8
  | .uplink => 0
  | .downlink => 1

/-- What a frame's keystream depends on, besides the key. -/
structure Frame where
  direction : Direction
  devAddr : DevAddr
  counter : UInt32
  deriving DecidableEq

/-- The longest payload. -/
def maxSize : Nat := 4080

/-- A frame counter, least significant byte first. -/
def counterBytes (n : UInt32) : List UInt8 :=
  [n.toUInt8, (n >>> 8).toUInt8, (n >>> 16).toUInt8, (n >>> 24).toUInt8]

/-- The bytes that are encrypted for keystream block `number`. -/
def blockBytes (frame : Frame) (number : UInt8) : List UInt8 :=
  [1, 0, 0, 0, 0, frame.direction.code] ++ frame.devAddr.bytes.reverse ++ counterBytes frame.counter
    ++ [0, number]

/-- A keystream block. -/
def keystreamBlock (keys : Crypto.RoundKeys) (frame : Frame) (number : UInt8) : Crypto.Block :=
  (Crypto.Block.ofBytes (blockBytes frame number)).encrypt keys

/-- The first `blocks` blocks of the keystream. -/
def keystream (keys : Crypto.RoundKeys) (frame : Frame) (blocks : Nat) : List UInt8 :=
  (List.range blocks).flatMap fun i => (keystreamBlock keys frame (UInt8.ofNat (i + 1))).toBytes

/-- Encrypts or decrypts a payload. -/
def apply (key : Aes128Key) (frame : Frame) (data : List UInt8) : Except CryptoError (List UInt8) :=
  if data.length > maxSize then .error (.payloadTooLarge data.length maxSize)
  else
    let keys := Crypto.RoundKeys.ofKey key.bytes
    .ok (data.zipWith (· ^^^ ·) (keystream keys frame ((data.length + 15) / 16)))

/-- Decrypts the payload of an uplink frame. -/
def decryptUplink (key : Aes128Key) (addr : DevAddr) (counter : UInt32) (data : List UInt8) :
    Except CryptoError (List UInt8) :=
  apply key ⟨.uplink, addr, counter⟩ data

end Lorawan.FramePayload
