import Lorawan.Base64
import Lorawan.Json.Basic
import Lorawan.Script.Literal
import Lorawan.Time.Rfc3339

/-!
# Values of scripts

What a script computes with.  Numbers of different types are compared by value; values of other types that
differ are unequal and have no order.
-/

namespace Lorawan.Script

/-- A key of a map.  Keys of different types are different. -/
inductive Key where
  | int (n : Int64)
  | uint (n : UInt64)
  | bool (b : Bool)
  | text (s : String)
  deriving DecidableEq, Repr

/-- A value. -/
inductive Value where
  | null
  | bool (b : Bool)
  | int (n : Int64)
  | uint (n : UInt64)
  | float (x : Float)
  | text (s : String)
  | bytes (bs : List UInt8)
  | list (items : List Value)
  | map (entries : List (Key × Value))
  /-- A length of time in nanoseconds. -/
  | duration (nanos : Int)
  | timestamp (time : Time.Zoned)
  /-- A function that was named like a member of a value. -/
  | function (name : String) (receiver : Value)
  deriving Inhabited

namespace Key

/-- A key with its type, for people. -/
def describe : Key → String
  | int n => s!"Int({n.toInt})"
  | uint n => s!"Uint({n.toNat})"
  | bool b => s!"Bool({b})"
  | text s => "String(" ++ Text.quoted s ++ ")"

/-- The name of a key's member in an object. -/
def memberName : Key → String
  | int n => toString n.toInt
  | uint n => toString n.toNat
  | bool b => toString b
  | text s => s

/-- A key as a value. -/
def toValue : Key → Value
  | int n => .int n
  | uint n => .uint n
  | bool b => .bool b
  | text s => .text s

/-- The key that a value can serve as. -/
def ofValue? : Value → Option Key
  | .int n => some (int n)
  | .uint n => some (uint n)
  | .bool b => some (bool b)
  | .text s => some (text s)
  | _ => none

end Key

/-- The entries of a map with one more, which takes the place of an entry with the same key. -/
def insertEntry (entries : List (Key × Value)) (key : Key) (value : Value) : List (Key × Value) :=
  match entries with
  | [] => [(key, value)]
  | (k, v) :: rest => if k = key then (key, value) :: rest else (k, v) :: insertEntry rest key value

namespace Value

/-- The value of a constant. -/
def ofLiteral : Literal → Value
  | .int n => int n
  | .uint n => uint n
  | .float x => float x
  | .text s => text s
  | .bytes bs => bytes bs
  | .bool b => bool b
  | .null => null

/-- The name of a value's type. -/
def typeName : Value → String
  | null => "null"
  | bool _ => "bool"
  | int _ => "int"
  | uint _ => "uint"
  | float _ => "float"
  | text _ => "string"
  | bytes _ => "bytes"
  | list _ => "list"
  | map _ => "map"
  | duration _ => "duration"
  | timestamp _ => "timestamp"
  | function .. => "function"

/-- A length of time in seconds and nanoseconds. -/
def describeDuration (nanos : Int) : String :=
  "Duration(TimeDelta \x7b secs: " ++ toString (nanos.fdiv Time.nanosPerSecond) ++ ", nanos: "
    ++ toString (nanos.fmod Time.nanosPerSecond) ++ " \x7d)"

mutual

/-- A value with its type, for people. -/
def describe : Value → String
  | null => Literal.null.describe
  | bool b => (Literal.bool b).describe
  | int n => (Literal.int n).describe
  | uint n => (Literal.uint n).describe
  | float x => (Literal.float x).describe
  | text s => (Literal.text s).describe
  | bytes bs => (Literal.bytes bs).describe
  | list items => "List(" ++ describeList (describeItems items) ++ ")"
  | map entries =>
    "Map(Map \x7b map: \x7b" ++ ", ".intercalate (describeEntries entries) ++ "\x7d \x7d)"
  | duration nanos => describeDuration nanos
  | timestamp z => "Timestamp(" ++ z.text ++ ")"
  | function name receiver =>
    "Function(" ++ Text.quoted name ++ ", Some(" ++ receiver.describe ++ "))"

/-- The items of a list, for people. -/
def describeItems : List Value → List String
  | [] => []
  | v :: rest => v.describe :: describeItems rest

/-- The entries of a map, for people. -/
def describeEntries : List (Key × Value) → List String
  | [] => []
  | (k, v) :: rest => (k.describe ++ ": " ++ v.describe) :: describeEntries rest

end

/-- The nanoseconds of a length of time, if they have 64 bits. -/
def nanos64? (nanos : Int) : Option Int :=
  if Int64.minValue.toInt ≤ nanos ∧ nanos ≤ Int64.maxValue.toInt then some nanos else none

/-- Whether a value counts as true: what is empty or zero does not. -/
def isTruthy : Value → Bool
  | null => false
  | bool b => b
  | int n => n != 0
  | uint n => n != 0
  | float x => x != 0.0
  | text s => !s.isEmpty
  | bytes bs => !bs.isEmpty
  | list items => !items.isEmpty
  | map entries => !entries.isEmpty
  | duration nanos => ((nanos64? nanos).getD 0) != 0
  | timestamp z => ((nanos64? z.instant.toNanos).getD 0) > 0
  | function .. => false

mutual

/-- Whether two values are equal. -/
def equal : Value → Value → Bool
  | null, null => true
  | bool a, bool b => a == b
  | int a, int b => a == b
  | int a, uint b => a.toInt == b.toNat
  | int a, float b => a.toFloat == b
  | uint a, uint b => a == b
  | uint a, int b => a.toNat == b.toInt
  | uint a, float b => a.toFloat == b
  | float a, float b => a == b
  | float a, int b => a == b.toFloat
  | float a, uint b => a == b.toFloat
  | text a, text b => a == b
  | bytes a, bytes b => a == b
  | list as, list bs => equalItems as bs
  | map as, map bs => as.length == bs.length && equalEntries as bs
  | duration a, duration b => a == b
  | timestamp a, timestamp b => a.instant == b.instant
  | function f a, function g b => f == g && equal a b
  | _, _ => false

/-- Whether two lists have equal items in the same places. -/
def equalItems : List Value → List Value → Bool
  | [], [] => true
  | a :: as, b :: bs => equal a b && equalItems as bs
  | _, _ => false

/-- Whether every entry of the first map has an equal one in the second. -/
def equalEntries : List (Key × Value) → List (Key × Value) → Bool
  | [], _ => true
  | (k, a) :: rest, bs =>
    (match bs.lookup k with
      | some b => equal a b
      | none => false)
    && equalEntries rest bs

end

/-- The order of two doubles, if both are numbers. -/
def compareFloats? (a b : Float) : Option Ordering :=
  if a < b then some .lt else if a == b then some .eq else if b < a then some .gt else none

/-- The order of two instants. -/
def compareInstants (a b : Time.Instant) : Ordering :=
  if a = b then .eq else if a ≤ b then .lt else .gt

/-- The order of two values, if they have one. -/
def compare? : Value → Value → Option Ordering
  | null, null => some .eq
  | bool a, bool b => some (compare a b)
  | int a, int b => some (compare a.toInt b.toInt)
  | int a, uint b => some (compare a.toInt b.toNat)
  | int a, float b => compareFloats? a.toFloat b
  | uint a, uint b => some (compare a.toNat b.toNat)
  | uint a, int b => some (compare (a.toNat : Int) b.toInt)
  | uint a, float b => compareFloats? a.toFloat b
  | float a, float b => compareFloats? a b
  | float a, int b => compareFloats? a b.toFloat
  | float a, uint b => compareFloats? a b.toFloat
  | text a, text b => some (compare a b)
  | duration a, duration b => some (compare a b)
  | timestamp a, timestamp b => some (compareInstants a.instant b.instant)
  | _, _ => none

/-- Whether some list holds a value. -/
def isMemberOf (v : Value) (items : List Value) : Bool := items.any fun item => equal item v

mutual

/-- A value as JSON.  Doubles that are no numbers, lengths of time, times and functions have no form. -/
def toJson? : Value → Option Json
  | null => some .null
  | bool b => some (.bool b)
  | int n => some (.ofInt64 n)
  | uint n => some (.int n.toNat)
  | float x => if x.isFinite then some (.float x) else none
  | text s => some (.text s)
  | bytes bs => some (.text (Base64.encode bs))
  | list items => (itemsToJson? items).map .array
  | map entries => (membersToJson? [] entries).map .object
  | duration _ | timestamp _ | function .. => none

/-- The items of a list as JSON. -/
def itemsToJson? : List Value → Option (List Json)
  | [] => some []
  | v :: rest => do
    let j ← toJson? v
    let js ← itemsToJson? rest
    return j :: js

/-- The entries of a map as members of an object. -/
def membersToJson? (members : List (String × Json)) : List (Key × Value) → Option (List (String × Json))
  | [] => some members
  | (k, v) :: rest => do
    let j ← toJson? v
    membersToJson? (Json.insertMember members k.memberName j) rest

end

/-- An integer of JSON: with a sign if it fits, else without, else as a double. -/
def ofJsonInt (n : Int) : Value :=
  if Int64.minValue.toInt ≤ n ∧ n ≤ Int64.maxValue.toInt then int (Int64.ofInt n)
  else if 0 ≤ n ∧ n < UInt64.size then uint (UInt64.ofNat n.toNat)
  else float (Float.ofInt n)

mutual

/-- The value of a JSON document. -/
def ofJson : Json → Value
  | .null => null
  | .bool b => bool b
  | .int n => ofJsonInt n
  | .float x => float x
  | .text s => text s
  | .array items => list (ofJsonItems items)
  | .object members => map (ofJsonMembers [] members)

/-- The values of the items of an array. -/
def ofJsonItems : List Json → List Value
  | [] => []
  | j :: rest => ofJson j :: ofJsonItems rest

/-- The entries of the members of an object. -/
def ofJsonMembers (entries : List (Key × Value)) : List (String × Json) → List (Key × Value)
  | [] => entries
  | (name, j) :: rest => ofJsonMembers (insertEntry entries (.text name) (ofJson j)) rest

end

end Value

end Lorawan.Script
