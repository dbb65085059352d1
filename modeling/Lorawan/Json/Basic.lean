/-!
# JSON values

A value of the JSON data model.  Integers and doubles are told apart, as a number is one or the other by
the way it is written.  The members of an object have an order, which carries no meaning; a well-formed
object names each member once.
-/

namespace Lorawan

/-- A JSON value. -/
inductive Json where
  | null
  | bool (b : Bool)
  | int (n : Int)
  | float (x : Float)
  | text (s : String)
  | array (items : List Json)
  | object (members : List (String × Json))
  deriving Inhabited

namespace Json

/-- The members with one more, which takes the place of a member of the same name. -/
def insertMember (members : List (String × Json)) (name : String) (value : Json) :
    List (String × Json) :=
  match members with
  | [] => [(name, value)]
  | (n, v) :: rest =>
    if n = name then (name, value) :: rest else (n, v) :: insertMember rest name value

/-- The member of an object by name. -/
def get? (j : Json) (name : String) : Option Json :=
  match j with
  | .object members => members.lookup name
  | _ => none

/-- A value, or null where there is none. -/
def ofOption (f : α → Json) : Option α → Json
  | none => .null
  | some a => f a

/-- A member that is written only if it has a value. -/
def optionalMember (name : String) : Option Json → List (String × Json)
  | none => []
  | some j => [(name, j)]

/-- An integer of 64 bits with a sign. -/
def ofInt64 (n : Int64) : Json := .int n.toInt

/-- An integer of 32 bits with a sign. -/
def ofInt32 (n : Int32) : Json := .int n.toInt

/-- An integer of 32 bits without a sign. -/
def ofUInt32 (n : UInt32) : Json := .int n.toNat

/-- An integer of 8 bits without a sign. -/
def ofUInt8 (n : UInt8) : Json := .int n.toNat

/-- A double, or null if it is no finite number. -/
def ofFloat (x : Float) : Json := if x.isFinite then .float x else .null

mutual

/-- How many arrays and objects are nested in each other in a value. -/
def nesting : Json → Nat
  | .array items => nestingItems items + 1
  | .object members => nestingMembers members + 1
  | _ => 0

/-- The deepest nesting among the items of an array. -/
def nestingItems : List Json → Nat
  | [] => 0
  | j :: rest => max (nesting j) (nestingItems rest)

/-- The deepest nesting among the members of an object. -/
def nestingMembers : List (String × Json) → Nat
  | [] => 0
  | (_, j) :: rest => max (nesting j) (nestingMembers rest)

end

end Json

end Lorawan
