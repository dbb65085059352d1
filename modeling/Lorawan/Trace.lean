import Lorawan.Hex
import Lorawan.Text.Blank
import Lorawan.Text.Split

/-!
# Trace context

Messages carry in two headers which trace they belong to and which step of it they come from.  Reading
accepts what the header's version allows; writing always uses version 0.  A trace state that cannot be
read is dropped, and the rest of the context stays.
-/

namespace Lorawan.Trace

/-- The header with the identifiers. -/
def parentHeader : String := "traceparent"

/-- The header with what vendors add. -/
def stateHeader : String := "tracestate"

/-! ## Trace state -/

/-- What vendors add to a trace, in order. -/
structure State where
  entries : List (List Char × List Char)
  deriving DecidableEq

namespace State

/-- The state without entries. -/
def empty : State := ⟨[]⟩

/-- The size of a text in bytes. -/
def byteSize (cs : List Char) : Nat := (String.ofList cs).utf8ByteSize

/-- Whether a character may begin a key or its vendor part. -/
def startsKey (c : Char) : Bool := c.isLower || c.isDigit

/-- Whether a character may stand in a key. -/
def inKey (c : Char) : Bool := startsKey c || c = '_' || c = '-' || c = '*' || c = '/'

/-- The longest key or value, in bytes. -/
def maxSize : Nat := 256

/-- The longest vendor part of a key. -/
def maxVendorSize : Nat := 13

/-- Whether a text is a key: nothing, or a name, with a vendor after an `@` or without one. -/
def isKey (cs : List Char) : Bool :=
  byteSize cs ≤ maxSize && cs.head?.all startsKey &&
    match Text.splitFirst? '@' cs with
    | none => cs.all inKey
    | some (name, vendor) =>
      name.all inKey && vendor.length ≤ maxVendorSize && vendor.all inKey && vendor.head?.all startsKey

/-- Whether a text is a value. -/
def isValue (cs : List Char) : Bool := byteSize cs ≤ maxSize && cs.all fun c => c ≠ ',' && c ≠ '='

/-- Reads an entry: key and value with any number of equals signs between them. -/
def readEntry? (cs : List Char) : Option (List Char × List Char) := do
  let (key, rest) ← Text.splitFirst? '=' cs
  let value := rest.dropWhile (· = '=')
  guard (isKey key && isValue value)
  return (key, value)

/-- Reads a state. -/
def parse? (s : String) : Option State :=
  ((Text.splitTerminated ',' s.toList).mapM readEntry?).map State.mk

/-- The text of a state. -/
def text (s : State) : String :=
  String.ofList (Text.join ',' (s.entries.map fun (key, value) => key ++ '=' :: value))

end State

/-! ## Span context -/

/-- A step of a trace.  No identifier is zero. -/
structure Context where
  traceId : Nat
  spanId : Nat
  sampled : Bool
  /-- Whether it was read from a message. -/
  remote : Bool
  state : State
  deriving DecidableEq

/-- Reads a hexadecimal number below a limit, with a plus sign or without one. -/
def readNumber? (limit : Nat) (cs : List Char) : Option Nat := do
  let digits := match cs with
    | '+' :: rest => rest
    | _ => cs
  guard !digits.isEmpty
  let values ← digits.mapM Hex.value?
  let n := values.foldl (fun n d => n * 16 + d.val) 0
  guard (n < limit)
  return n

/-- Reads an identifier, which is not zero and has no capitals. -/
def readId? (limit : Nat) (cs : List Char) : Option Nat := do
  guard (cs.all fun c => !c.isUpper)
  let n ← readNumber? limit cs
  guard (n ≠ 0)
  return n

namespace Context

/-- The highest version that is read. -/
def maxVersion : Nat := 254

/-- Reads the identifiers and whether the step is sampled. -/
def parseParent? (s : String) : Option (Nat × Nat × Bool) := do
  match Text.splitTerminated '-' (Text.trim s.toList) with
  | version :: traceId :: spanId :: flags :: more =>
    let version ← readNumber? 256 version
    guard (version ≤ maxVersion && (version ≠ 0 || more.isEmpty))
    let traceId ← readId? (Nat.pow 2 128) traceId
    let spanId ← readId? UInt64.size spanId
    let flags ← readNumber? 256 flags
    guard (version ≠ 0 || flags ≤ 2)
    return (traceId, spanId, flags % 2 = 1)
  | _ => none

/-- The context in the headers of a message. -/
def extract? (header : String → Option String) : Option Context := do
  let (traceId, spanId, sampled) ← parseParent? ((header parentHeader).getD "")
  let state := ((header stateHeader).bind State.parse?).getD .empty
  return ⟨traceId, spanId, sampled, true, state⟩

/-- A new step: of the trace that its parent belongs to, or of a trace of its own.  Every new step is
sampled. -/
def child (parent : Option Context) (freshTraceId freshSpanId : Nat) : Context where
  traceId := parent.elim freshTraceId (·.traceId)
  spanId := freshSpanId
  sampled := true
  remote := false
  state := parent.elim .empty (·.state)

/-- The trace identifier as text. -/
def traceIdText (c : Context) : String := Hex.encodeNat 32 c.traceId

/-- The step identifier as text. -/
def spanIdText (c : Context) : String := Hex.encodeNat 16 c.spanId

/-- The header with the identifiers. -/
def parentText (c : Context) : String :=
  "-".intercalate ["00", c.traceIdText, c.spanIdText, if c.sampled then "01" else "00"]

/-- The headers of a message that is sent in this step. -/
def headers (c : Context) : List (String × String) :=
  [(parentHeader, c.parentText), (stateHeader, c.state.text)]

end Context

/-- The headers of a message: none are written outside of any step. -/
def inject (current : Option Context) : List (String × String) := current.elim [] (·.headers)

end Lorawan.Trace
