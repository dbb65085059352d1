import Lorawan.Crypto.Aes
import Lorawan.Crypto.Error

/-!
# Key wrapping

The standard wrap of key material under a key-encryption key: six passes over the eight-byte halves of
the material, each step encrypting the check value together with one half and mixing the step number
into the check value.  Unwrapping runs the steps backwards and succeeds only if the check value comes out
as it went in.
-/

namespace Lorawan.Crypto.KeyWrap

/-- The check value that wrapping starts from. -/
def initialCheck : Half :=
  ⟨⟨0xa6, 0xa6, 0xa6, 0xa6⟩, ⟨0xa6, 0xa6, 0xa6, 0xa6⟩⟩

/-- The check value together with the halves of the material. -/
structure State where
  check : Half
  halves : List Half
  deriving DecidableEq

/-- One wrapping step, the `t`-th, on one half. -/
def wrapStep (cipher : Block → Block) (t : Nat) (check half : Half) : Half × Half :=
  let b := cipher ⟨check, half⟩
  (b.high.xor (.ofNat t), b.low)

/-- The check value and half that a wrapping step started from. -/
def unwrapStep (decipher : Block → Block) (t : Nat) (check half : Half) : Half × Half :=
  let b := decipher ⟨check.xor (.ofNat t), half⟩
  (b.high, b.low)

/-- One pass of wrapping, its steps numbered from `t`, first half first. -/
def wrapPass (cipher : Block → Block) : Nat → Half → List Half → State
  | _, check, [] => ⟨check, []⟩
  | t, check, half :: rest =>
    let (check, half) := wrapStep cipher t check half
    let s := wrapPass cipher (t + 1) check rest
    ⟨s.check, half :: s.halves⟩

/-- The state that one pass of wrapping started from, last half first. -/
def unwrapPass (decipher : Block → Block) : Nat → Half → List Half → State
  | _, check, [] => ⟨check, []⟩
  | t, check, half :: rest =>
    let s := unwrapPass decipher (t + 1) check rest
    let (check, half) := unwrapStep decipher t s.check half
    ⟨check, half :: s.halves⟩

/-- How many passes there are. -/
def passes : Nat := 6

/-- The number of the first step of each pass, in order. -/
def firstSteps (size : Nat) : List Nat := (List.range passes).map fun j => j * size + 1

/-- Wraps the halves of some key material. -/
def wrap (cipher : Block → Block) (material : List Half) : State :=
  (firstSteps material.length).foldl (fun s t => wrapPass cipher t s.check s.halves)
    ⟨initialCheck, material⟩

/-- The state before wrapping. -/
def unwind (decipher : Block → Block) (s : State) : State :=
  (firstSteps s.halves.length).foldr (fun t s => unwrapPass decipher t s.check s.halves) s

/-- A wrapped key as bytes: the check value, then the halves. -/
def State.toBytes (s : State) : List UInt8 := s.check.toBytes ++ s.halves.flatMap Half.toBytes

/-- Whether the cipher takes a key of this size. -/
abbrev IsKeySize (size : Nat) : Prop := size = 16 ∨ size = 24 ∨ size = 32

/-- What is wrong with a byte string that is not made of a check value and halves. -/
def raggedDetail : String :=
  "key unwrap error: data must be a multiple of 64 bits for AES-KW and less than 2^32 bytes for AES-KWP"

/-- Unwraps a byte string under a key-encryption key. -/
def unwrap (kek : List UInt8) (wrapped : List UInt8) : Except CryptoError (List UInt8) :=
  if IsKeySize kek.length then
    match Half.ofBytes? wrapped with
    | some (check :: halves) =>
      let s := unwind (Block.decrypt (.ofKey kek)) ⟨check, halves⟩
      if s.check = initialCheck then .ok (s.halves.flatMap Half.toBytes)
      else .error .keyUnwrapIntegrity
    | _ => .error (.invalidKeyMaterial raggedDetail)
  else .error (.cipherInit s!"invalid kek length: {kek.length} bytes")

end Lorawan.Crypto.KeyWrap
