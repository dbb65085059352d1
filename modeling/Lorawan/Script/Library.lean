import Lorawan.Codec.Cayenne
import Lorawan.Pattern.Acceptance
import Lorawan.Script.Duration
import Lorawan.Script.Operator

/-!
# Functions of scripts

The functions that a script can call, by name.  A function sees its arguments unevaluated: most evaluate
them in order, some evaluate one again for every item of a list.  Most functions work on a receiver, which
is the value before the dot or, without one, the first argument.
-/

namespace Lorawan.Script

/-- The variables in scope, innermost first. -/
abbrev Scope := List (String × Value)

/-- An argument: the expression, and its value in a scope. -/
structure Argument where
  expr : Expr
  value : Scope → Evaluation Value

/-- A call of a function. -/
structure Call where
  receiver : Option Value
  args : List Argument
  scope : Scope

namespace Call

/-! ## Arguments -/

/-- The value of an argument by its place. -/
def value (c : Call) (place : Nat) : Evaluation Value :=
  match c.args[place]? with
  | some a => a.value c.scope
  | none => .fail (.argumentCount (place + 1) c.args.length)

/-- Converts a value to the type that a function wants. -/
def convert (want : String) (conversion : Value → Option α) (v : Value) : Evaluation α :=
  .ofOption (.unexpectedType v.describe want) (conversion v)

/-- The value of an argument, converted. -/
def valueAs (c : Call) (want : String) (conversion : Value → Option α) (place : Nat) :
    Evaluation α := do
  convert want conversion (← c.value place)

/-- The receiver, and the place of the first argument after it.  Without a receiver the first argument
takes its place, and one that has no value counts as missing. -/
def receiverValue (c : Call) : Evaluation (Value × Nat) :=
  match c.receiver with
  | some v => .ok (v, 0)
  | none => (·, 1) <$> (c.value 0).mapError fun _ => .missingArgument

/-- The receiver, converted, and the place of the first argument after it. -/
def receiverAs (c : Call) (want : String) (conversion : Value → Option α) :
    Evaluation (α × Nat) := do
  let (v, next) ← c.receiverValue
  return (← convert want conversion v, next)

/-- The values of all arguments. -/
def values (c : Call) : Evaluation (List Value) := c.args.mapM fun a => a.value c.scope

/-- The expression of an argument, which must be there. -/
def argument (c : Call) (place : Nat) : Evaluation Argument :=
  match c.args[place]? with
  | some a => .ok a
  | none => .abort

/-- An argument that is a name. -/
def nameAt (c : Call) (place : Nat) : Evaluation String := do
  match (← c.argument place).expr with
  | .name s => return s
  | e => .fail (.unexpectedType e.describe "identifier")

/-- A value as a string. -/
def asText? : Value → Option String
  | .text s => some s
  | _ => none

/-- A value as bytes. -/
def asBytes? : Value → Option (List UInt8)
  | .bytes bs => some bs
  | _ => none

/-- A value as a time. -/
def asTime? : Value → Option Time.Zoned
  | .timestamp z => some z
  | _ => none

/-- The name of the string type in errors. -/
def textType : String := "Arc<String>"

/-- The name of the type of bytes in errors. -/
def bytesType : String := "Arc<Vec<u8>>"

/-- The name of the type of times in errors. -/
def timeType : String := "chrono::DateTime<chrono::FixedOffset>"

/-! ## Containers and strings -/

/-- Whether the receiver holds the argument. -/
def contains (c : Call) : Evaluation Value := do
  let (this, next) ← c.receiverValue
  let v ← c.value next
  match this, v with
  | .list items, v => return .bool (v.isMemberOf items)
  | .map entries, v =>
    let key ← Attempt.ofOption (.keyType v) (Key.ofValue? v)
    return .bool (entries.lookup key).isSome
  | .text s, .text part => return .bool (RelationOp.occursIn part.toList s.toList)
  | .bytes bs, .bytes part =>
    if part.isEmpty then .abort else return .bool (RelationOp.occursIn part bs)
  | _, _ => return .bool false

/-- The size of the receiver; that of a string is its number of bytes. -/
def size (c : Call) : Evaluation Value := do
  let (this, _) ← c.receiverValue
  let n ←
    match this with
    | .list items => pure items.length
    | .map entries => pure entries.length
    | .text s => pure s.utf8ByteSize
    | .bytes bs => pure bs.length
    | v => .fail (.function "size" s!"cannot determine the size of {v.describe}")
  return .int (Int64.ofNat n)

/-- Whether the argument can be evaluated, a missing member being the one reason why it may not. -/
def has (c : Call) : Evaluation Value :=
  match c.value 0 with
  | .ok _ => .ok (.bool true)
  | .error (.error (.noSuchKey _)) => .ok (.bool false)
  | .error e => .error e

/-- A test of two strings. -/
def textTest (test : String → String → Bool) (c : Call) : Evaluation Value := do
  let (this, next) ← c.receiverAs textType asText?
  let other ← c.valueAs textType asText? next
  return .bool (test this other)

/-- Whether the receiver has a part that fits a pattern. -/
def matchesPattern (c : Call) : Evaluation Value := do
  let (this, next) ← c.receiverAs textType asText?
  let pattern ← c.valueAs textType asText? next
  match Pattern.parse pattern with
  | .ok p => return .bool (p.matchesIn this)
  | .error e =>
    .fail (.function "matches" s!"'{pattern}' not a valid regex:\n{e.message pattern}")

/-! ## Conversions -/

/-- The receiver as a string. -/
def string (c : Call) : Evaluation Value := do
  let (this, _) ← c.receiverValue
  match this with
  | .text s => return .text s
  | .timestamp z => return .text z.text
  | .duration nanos =>
    match Value.nanos64? nanos with
    | some n => return .text (Duration.text n)
    | none => .abort
  | .int n => return .text (toString n.toInt)
  | .uint n => return .text (toString n.toNat)
  | .float x => return .text (Decimal.Layout.plain.format x)
  | .bytes bs => return .text (Utf8.decodeLossy bs)
  | v => .fail (.function "string" s!"cannot convert {v.describe} to string")

/-- The argument as bytes. -/
def bytes (c : Call) : Evaluation Value := do
  return .bytes (Utf8.encode (← c.valueAs textType asText? 0))

/-- Why a text is no number of some type. -/
def numberTextFault (detail : String) : String := s!"string parse error: {detail}"

/-- Reads an integer between two bounds.  A sign may stand before its digits, though a minus sign only if
there are negative integers. -/
def readInteger (lowest highest : Int) (s : String) : Except String Int :=
  let cs := s.toList
  if cs.isEmpty then .error "cannot parse integer from empty string"
  else
    let (sign, ds) := takeOne (if lowest < 0 then ['+', '-'] else ['+']) cs
    if ds.isEmpty || ds.any (!isDigit ·) then .error "invalid digit found in string"
    else
      let n := signedNumber sign (decimalOf ds)
      if n > highest then .error "number too large to fit in target type"
      else if n < lowest then .error "number too small to fit in target type"
      else .ok n

/-- The words for doubles that are not written in digits. -/
def wordDouble? (word : String) : Option Float :=
  if word = "inf" ∨ word = "infinity" then some (1.0 / 0.0)
  else if word = "nan" then some (0.0 / 0.0)
  else none

/-- Reads a double. -/
def readDouble (s : String) : Except String Float :=
  let cs := s.toList
  if cs.isEmpty then .error "cannot parse float from empty string"
  else
    let (sign, unsigned) := takeOne ['-', '+'] cs
    match wordDouble? (String.ofList (unsigned.map Char.toLower)) with
    | some x => .ok (if sign = ['-'] then -x else x)
    | none =>
      match Duration.splitDecimal unsigned with
      | some (whole, fraction, rest) =>
        if rest.isEmpty then .ok (doubleOf sign whole fraction 0)
        else
          match splitExponent rest with
          | some (lexeme, exponent) =>
            if lexeme.length = rest.length then .ok (doubleOf sign whole fraction exponent)
            else .error "invalid float literal"
          | none => .error "invalid float literal"
      | none => .error "invalid float literal"

/-- The receiver as a double. -/
def double (c : Call) : Evaluation Value := do
  let (this, _) ← c.receiverValue
  match this with
  | .text s =>
    match readDouble s with
    | .ok x => return .float x
    | .error detail => .fail (.function "double" (numberTextFault detail))
  | .float x => return .float x
  | .int n => return .float n.toFloat
  | .uint n => return .float n.toFloat
  | v => .fail (.function "double" s!"cannot convert {v.describe} to double")

/-- The receiver as an integer with a sign. -/
def int (c : Call) : Evaluation Value := do
  let (this, _) ← c.receiverValue
  let overflow : ScriptError := .function "int" "integer overflow"
  match this with
  | .text s =>
    match readInteger Int64.minValue.toInt Int64.maxValue.toInt s with
    | .ok n => return .int (Int64.ofInt n)
    | .error detail => .fail (.function "int" (numberTextFault detail))
  | .float x =>
    if x > 9223372036854775808.0 || x < -9223372036854775808.0 then .fail overflow
    else return .int x.toInt64
  | .int n => return .int n
  | .uint n => if (n.toNat : Int) ≤ Int64.maxValue.toInt then return .int (Int64.ofNat n.toNat) else .fail overflow
  | v => .fail (.function "int" s!"cannot convert {v.describe} to int")

/-- The receiver as an integer without a sign. -/
def uint (c : Call) : Evaluation Value := do
  let (this, _) ← c.receiverValue
  let overflow : ScriptError := .function "uint" "unsigned integer overflow"
  match this with
  | .text s =>
    match readInteger 0 (UInt64.size - 1) s with
    | .ok n => return .uint (UInt64.ofNat n.toNat)
    | .error detail => .fail (.function "uint" (numberTextFault detail))
  | .float x =>
    if x > 18446744073709551616.0 || x < 0.0 then .fail overflow
    else return .uint x.toUInt64
  | .int n =>
    if n.toInt ≥ 0 then return .uint (UInt64.ofNat n.toInt.toNat) else .fail overflow
  | .uint n => return .uint n
  | v => .fail (.function "uint" s!"cannot convert {v.describe} to uint")

/-! ## Every item of a list -/

/-- The items of a list, or the keys of a map, when a function takes either. -/
def items? (mapsToo : Bool) : Value → Option (List Value)
  | .list items => some items
  | .map entries => if mapsToo then some (entries.map fun (k, _) => k.toValue) else none
  | _ => none

/-- The items of the receiver, and the value of an expression in the scope where a name stands for an item
of it.  The name and the expression are the arguments. -/
def forEach (mapsToo : Bool) (c : Call) : Evaluation (List Value × (Value → Evaluation Value)) := do
  let (this, next) ← c.receiverValue
  let name ← c.nameAt next
  let body ← c.argument (next + 1)
  let items ← Attempt.ofOption (.unexpectedType this.typeName "list") (items? mapsToo this)
  return (items, fun item => body.value ((name, item) :: c.scope))

/-- The list of the expression's values. -/
def map (c : Call) : Evaluation Value := do
  let (items, body) ← c.forEach true
  return .list (← items.mapM body)

/-- Whether a value is the truth value true itself. -/
def isTrue : Value → Bool
  | .bool b => b
  | _ => false

/-- Whether a value is the truth value false itself. -/
def isFalse : Value → Bool
  | .bool b => !b
  | _ => false

/-- The items for which the expression is true. -/
def filter (c : Call) : Evaluation Value := do
  let (items, body) ← c.forEach false
  return .list (← items.filterM fun item => isTrue <$> body item)

/-- Whether the expression is false for no item; the first for which it is ends the search. -/
def all (c : Call) : Evaluation Value := do
  let (items, body) ← c.forEach true
  return .bool (← items.allM fun item => (!isFalse ·) <$> body item)

/-- Whether the expression is true for some item; the first for which it is ends the search. -/
def existsSome (c : Call) : Evaluation Value := do
  let (items, body) ← c.forEach true
  return .bool (← items.anyM fun item => isTrue <$> body item)

/-- Whether the expression is true for one of some items, when it was true before or not; the second for
which it is ends the search. -/
def exactlyOne (body : Value → Evaluation Value) : (found : Bool) → List Value → Evaluation Bool
  | found, [] => .ok found
  | found, item :: rest => do
    if isTrue (← body item) then
      if found then return false else exactlyOne body true rest
    else exactlyOne body found rest

/-- Whether the expression is true for exactly one item. -/
def existsOne (c : Call) : Evaluation Value := do
  let (items, body) ← c.forEach true
  return .bool (← exactlyOne body false items)

/-- The last of the outermost values: of two, the one that is not on the `keep` side of the other. -/
def outermost (keep : Ordering) : List Value → Evaluation Value
  | [] => .ok .null
  | first :: rest =>
    rest.foldlM
      (fun best v => do
        return if (← RelationOp.order best v) = keep then best else v)
      first

/-- The outermost of the arguments, or of the items of a single one that is a list. -/
def extreme (keep : Ordering) (c : Call) : Evaluation Value := do
  match ← c.values with
  | [.list items] => outermost keep items
  | [v] => return v
  | vs => outermost keep vs

/-! ## Times -/

/-- Reads a length of time. -/
def duration (c : Call) : Evaluation Value := do
  let s ← c.valueAs textType asText? 0
  match Duration.parse s with
  | .ok nanos => return .duration nanos
  | .error e => .fail (.function "duration" e.message)

/-- Reads a time. -/
def timestamp (c : Call) : Evaluation Value := do
  let s ← c.valueAs textType asText? 0
  match Time.parseStrict s with
  | .ok z => return .timestamp z
  | .error e => .fail (.function "timestamp" e.message)

/-- A part of what a clock shows at the receiver. -/
def clockPart (part : Time.Clock → Int) (c : Call) : Evaluation Value := do
  let (this, _) ← c.receiverAs timeType asTime?
  return .int (Int64.ofInt (part this.clock))

/-! ## Payloads -/

/-- The name of the function that decodes payloads. -/
def payloadFunction : String := "cayenne_lpp_decode"

/-- Decodes a Cayenne low-power payload. -/
def decodePayload (c : Call) : Evaluation Value := do
  let bs ← c.valueAs bytesType asBytes? 0
  match Cayenne.decode bs with
  | .ok j => return .ofJson j
  | .error e => .fail (.function payloadFunction e.message)

/-! ## The table -/

/-- The functions by name. -/
def functions : List (String × (Call → Evaluation Value)) :=
  [("contains", contains), ("size", size), ("has", has), ("map", map), ("filter", filter),
    ("all", all), ("exists", existsSome), ("exists_one", existsOne), ("max", extreme .gt),
    ("min", extreme .lt), ("startsWith", textTest fun s t => t.toList.isPrefixOf s.toList),
    ("endsWith", textTest fun s t => t.toList.isSuffixOf s.toList), ("matches", matchesPattern),
    ("string", string), ("bytes", bytes), ("double", double), ("int", int), ("uint", uint),
    ("duration", duration), ("timestamp", timestamp),
    ("getFullYear", clockPart fun k => k.date.year),
    ("getMonth", clockPart fun k => (k.date.month : Int) - 1),
    ("getDayOfYear", clockPart fun k => k.date.dayOfYear),
    ("getDayOfMonth", clockPart fun k => (k.date.day : Int) - 1),
    ("getDate", clockPart fun k => k.date.day),
    ("getDayOfWeek", clockPart fun k => k.date.weekday),
    ("getHours", clockPart fun k => k.second / 3600),
    ("getMinutes", clockPart fun k => k.second / 60 % 60),
    ("getSeconds", clockPart fun k => k.second % 60),
    ("getMilliseconds", clockPart fun k => k.nanos / 1000000),
    (payloadFunction, decodePayload)]

end Call

/-- The function of a name. -/
def function? (name : String) : Option (Call → Evaluation Value) := Call.functions.lookup name

end Lorawan.Script
