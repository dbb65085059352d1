import Lorawan.Crypto.Key
import Lorawan.Crypto.KeyWrap
import Lorawan.Hex
import Lorawan.ServiceError
import Lorawan.Text.Quoted
import Lorawan.Validation

/-!
# Key-encryption keys

A session key reaches the server in an envelope: either as it is, or wrapped under one of the configured
key-encryption keys, which the envelope names by label.
-/

namespace Lorawan

/-- A session key as it travels.  An empty label means that the key is not wrapped. -/
structure KeyEnvelope where
  aesKey : List UInt8
  kekLabel : String
  deriving DecidableEq

/-- A description that shows the size of the key alone. -/
def KeyEnvelope.describe (e : KeyEnvelope) : String :=
  "KeyEnvelope \x7b aes_key: <" ++ toString e.aesKey.length ++ " bytes>, kek_label: "
    ++ Text.quoted e.kekLabel ++ " \x7d"

/-- One configured key-encryption key, in hex. -/
structure KekEntry where
  label : String
  kek : String
  deriving DecidableEq

namespace KekEntry

/-- A description that hides the key. -/
def describe (e : KekEntry) : String :=
  "KekConfig \x7b label: " ++ Text.quoted e.label ++ ", kek: \"<redacted>\" \x7d"

/-- The key itself, or why the text is not one. -/
def key (e : KekEntry) : Except String (List UInt8) :=
  match Hex.decode? e.kek with
  | none => .error "kek must be hex encoded"
  | some bs =>
    if bs.length = 16 ∨ bs.length = 24 ∨ bs.length = 32 then .ok bs
    else .error s!"kek must be 16, 24 or 32 bytes, got {bs.length}"

/-- What is wrong with an entry taken by itself. -/
def faults (e : KekEntry) : List FieldFault :=
  (match e.key with
    | .ok _ => []
    | .error detail => [⟨"kek", detail⟩])
  ++ (if e.label.isEmpty then [⟨"label", "length is lower than 1"⟩] else [])

end KekEntry

/-- Why a list of entries makes no set. -/
inductive KekSetError where
  /-- An entry breaks the rules of its fields. -/
  | invalidEntry (report : FaultReport)
  /-- Two entries have this label. -/
  | duplicateLabel (label : String)
  deriving DecidableEq, Repr

/-- The wording of a faulty list of entries. -/
def KekSetError.message : KekSetError → String
  | .invalidEntry report => report.text
  | .duplicateLabel label => s!"duplicate kek label: {label}"

/-- A faulty list of entries as an error of the services. -/
def KekSetError.toServiceError (e : KekSetError) : ServiceError := .validation e.message

/-- The key-encryption keys by label, in the order of their entries. -/
structure KekSet where
  keys : List (String × List UInt8)
  deriving DecidableEq

namespace KekSet

/-- The set without keys. -/
def empty : KekSet := ⟨[]⟩

/-- The key of a label. -/
def get? (s : KekSet) (label : String) : Option (List UInt8) := s.keys.lookup label

def size (s : KekSet) : Nat := s.keys.length

def isEmpty (s : KekSet) : Bool := s.keys.isEmpty

/-- The set with one more entry, which must be valid and have a label of its own. -/
def insertEntry (s : KekSet) (e : KekEntry) : Except KekSetError KekSet :=
  match e.key, e.faults with
  | .ok key, [] =>
    if (s.get? e.label).isSome then .error (.duplicateLabel e.label)
    else .ok ⟨s.keys ++ [(e.label, key)]⟩
  | _, faults => .error (.invalidEntry (.ofFaults faults))

/-- The set of some entries, or the first fault in their order. -/
def ofEntries (entries : List KekEntry) : Except KekSetError KekSet :=
  entries.foldlM insertEntry empty

/-- The session key in an envelope. -/
def resolve (s : KekSet) (e : KeyEnvelope) : Except CryptoError Aes128Key :=
  if e.kekLabel.isEmpty then Aes128Key.ofBytes e.aesKey
  else
    match s.get? e.kekLabel with
    | none => .error (.unknownKek e.kekLabel)
    | some kek => do
      let unwrapped ← Crypto.KeyWrap.unwrap kek e.aesKey
      Aes128Key.ofBytes unwrapped

end KekSet

end Lorawan
