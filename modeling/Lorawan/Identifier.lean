import Lorawan.Hex

/-!
# Identifiers

The byte-string identifiers of the network: device and gateway EUIs, device addresses and network
identifiers.  Each kind has a fixed size, is written as lower-case hex, and is read from hex of either
case.  Identifiers are ordered by their bytes, most significant first.
-/

namespace Lorawan

/-- The kinds of identifier. -/
inductive IdentifierKind where
  | eui64
  | devAddr
  | netId
  deriving DecidableEq, Repr

/-- How many bytes an identifier of the kind has. -/
def IdentifierKind.size : IdentifierKind → Nat
  | .eui64 => 8
  | .devAddr => 4
  | .netId => 3

/-- The name of the kind, as texts show it. -/
def IdentifierKind.label : IdentifierKind → String
  | .eui64 => "Eui64"
  | .devAddr => "DevAddr"
  | .netId => "NetId"

/-- An identifier of the given kind. -/
structure Identifier (kind : IdentifierKind) where
  bytes : List UInt8
  size_eq : bytes.length = kind.size
  deriving DecidableEq

/-- Extended unique identifier of a device or a gateway. -/
abbrev Eui64 := Identifier .eui64

/-- Address of a device within its network session. -/
abbrev DevAddr := Identifier .devAddr

/-- Identifier of a network. -/
abbrev NetId := Identifier .netId

/-- A byte string or text of the wrong size.  `actual` counts bytes, and is zero for a text that is not
hex at all. -/
structure IdentifierError where
  kind : IdentifierKind
  actual : Nat
  deriving DecidableEq, Repr

/-- The wording of an identifier error. -/
def IdentifierError.message (e : IdentifierError) : String :=
  s!"invalid {e.kind.label}: expected {e.kind.size} bytes of hex, got {e.actual}"

namespace Identifier

variable {kind : IdentifierKind}

/-- The identifier with these bytes, if there are as many as the kind asks for. -/
def ofBytes (kind : IdentifierKind) (bs : List UInt8) : Except IdentifierError (Identifier kind) :=
  if h : bs.length = kind.size then .ok ⟨bs, h⟩ else .error ⟨kind, bs.length⟩

/-- Reads an identifier from hex text of either case. -/
def parse (kind : IdentifierKind) (s : String) : Except IdentifierError (Identifier kind) :=
  match Hex.decode? s with
  | some bs => ofBytes kind bs
  | none => .error ⟨kind, 0⟩

/-- The identifier as lower-case hex. -/
def text (id : Identifier kind) : String := Hex.encode id.bytes

/-- The identifier with its kind, for people. -/
def describe (id : Identifier kind) : String := kind.label ++ "(" ++ id.text ++ ")"

/-- The identifier whose bytes are all zero. -/
def zero (kind : IdentifierKind) : Identifier kind :=
  ⟨List.replicate kind.size 0, List.length_replicate⟩

instance : Inhabited (Identifier kind) := ⟨zero kind⟩

/-- Whether the first byte string comes no later than the second in dictionary order. -/
def bytesLe : List UInt8 → List UInt8 → Bool
  | [], _ => true
  | _ :: _, [] => false
  | a :: as, b :: bs => a < b || (a == b && bytesLe as bs)

/-- The order of identifiers. -/
def le (a b : Identifier kind) : Bool := bytesLe a.bytes b.bytes

/-- The identifiers in order; equal ones keep their places. -/
def sort (ids : List (Identifier kind)) : List (Identifier kind) := ids.mergeSort le

theorem bytes_injective {a b : Identifier kind} (h : a.bytes = b.bytes) : a = b := by
  cases a; cases b; simp_all

@[simp] theorem parse_text (id : Identifier kind) : parse kind id.text = .ok id := by
  simp [parse, text, ofBytes, id.size_eq]

end Identifier

end Lorawan
