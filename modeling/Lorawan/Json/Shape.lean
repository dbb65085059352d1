import Lorawan.Base64
import Lorawan.Identifier
import Lorawan.Json.Outline

/-!
# Reading values of an expected shape

Readers turn an outline into a value of the domain, or tell why it cannot be one.  A record is an object
whose members are looked up by name, other members being ignored, or an array that holds the fields in
order.  The first fault in the order of the document is the one reported; only after all of it has been
seen are missing fields noticed, in the order of the record.
-/

namespace Lorawan.Json

/-- Why a document is not what was expected. -/
inductive DecodeError where
  /-- The text is not well formed. -/
  | malformed
  | missingField (name : String)
  | duplicateField (name : String)
  | unknownVariant (name : String) (known : List String)
  | identifier (cause : IdentifierError)
  /-- A value of another kind, out of range, or not in the expected form. -/
  | wrongShape
  deriving DecidableEq, Repr

/-- The wording of an error that has a fixed one. -/
def DecodeError.message? : DecodeError → Option String
  | .malformed | .wrongShape => none
  | .missingField name => some ("missing field `" ++ name ++ "`")
  | .duplicateField name => some ("duplicate field `" ++ name ++ "`")
  | .unknownVariant name known =>
    some ("unknown variant `" ++ name ++ "`, expected one of "
      ++ ", ".intercalate (known.map fun k => "`" ++ k ++ "`"))
  | .identifier cause => some cause.message

/-- A reader of values of a type. -/
abbrev Reader (α : Type) := Outline → Except DecodeError α

/-- Reads a whole document. -/
def Document.decode (doc : Document) (reader : Reader α) : Except DecodeError α := do
  let a ← reader doc.root
  if doc.clean then return a else throw .malformed

/-- Reads the bytes of a document. -/
def decodeBytes (reader : Reader α) (bs : List UInt8) : Except DecodeError α :=
  (Document.read bs).decode reader

/-- Reads a value that is there already.  The reader is told how deep its parts may be nested: no part of a
value that was built is too deep for it. -/
def decode? (reader : (depth : Nat) → Reader α) (j : Json) : Option α :=
  (reader j.nesting (Outline.ofJson j)).toOption

namespace Outline

/-- The error for an outline of the wrong kind: what cannot even be read is malformed. -/
def mismatch : Outline → DecodeError
  | .broken | .text none => .malformed
  | .number n => if n.value?.isSome then .wrongShape else .malformed
  | _ => .wrongShape

/-- Reads a string. -/
def readString : Reader String
  | .text (some s) => .ok s
  | o => .error o.mismatch

/-- Reads a truth value. -/
def readBool : Reader Bool
  | .bool b => .ok b
  | o => .error o.mismatch

/-- Reads an integer. -/
def readInt : Reader Int
  | .number n =>
    match n.value? with
    | some (.int k) => .ok k
    | some (.float _) => .error .wrongShape
    | none => .error .malformed
  | o => .error o.mismatch

/-- Reads an integer that lies in a range. -/
def readIntIn (lowest highest : Int) : Reader Int := fun o => do
  let k ← o.readInt
  if lowest ≤ k ∧ k ≤ highest then return k else throw .wrongShape

def readUInt8 : Reader UInt8 := fun o =>
  (fun k => UInt8.ofNat k.toNat) <$> readIntIn 0 (UInt8.size - 1) o

def readUInt32 : Reader UInt32 := fun o =>
  (fun k => UInt32.ofNat k.toNat) <$> readIntIn 0 (UInt32.size - 1) o

def readInt32 : Reader Int32 := fun o =>
  Int32.ofInt <$> readIntIn Int32.minValue.toInt Int32.maxValue.toInt o

def readInt64 : Reader Int64 := fun o =>
  Int64.ofInt <$> readIntIn Int64.minValue.toInt Int64.maxValue.toInt o

/-- Reads a double; an integer stands for the nearest one. -/
def readFloat : Reader Float
  | .number n =>
    match n.value? with
    | some (.int k) => .ok (Float.ofInt k)
    | some (.float x) => .ok x
    | none => .error .malformed
  | .float x => .ok x
  | o => .error o.mismatch

/-- Reads a byte string in base64. -/
def readBase64 : Reader (List UInt8) := fun o => do
  match Base64.decode? (← o.readString) with
  | some bs => return bs
  | none => throw .wrongShape

/-- Reads an identifier. -/
def readIdentifier (kind : IdentifierKind) : Reader (Identifier kind) := fun o => do
  match Identifier.parse kind (← o.readString) with
  | .ok id => return id
  | .error e => throw (.identifier e)

/-- Reads a value that may be null. -/
def readOption (reader : Reader α) : Reader (Option α)
  | .null => .ok none
  | o => some <$> reader o

/-- Reads an array of values. -/
def readList (reader : Reader α) : Reader (List α)
  | .array items closed => do
    let as ← items.mapM reader
    if closed then return as else throw .malformed
  | o => .error o.mismatch

mutual

/-- Reads any value that is nested in fewer than `depth` arrays and objects. -/
def readJson (depth : Nat) : Reader Json
  | .null => .ok .null
  | .bool b => .ok (.bool b)
  | .number n =>
    match n.value? with
    | some (.int k) => .ok (.int k)
    | some (.float x) => .ok (.float x)
    | none => .error .malformed
  | .float x => .ok (.float x)
  | .text (some s) => .ok (.text s)
  | .text none => .error .malformed
  | .array items closed =>
    if depth ≤ 1 then .error .malformed
    else do
      let items ← readJsonItems (depth - 1) items
      if closed then return .array items else throw .malformed
  | .object members closed =>
    if depth ≤ 1 then .error .malformed
    else do
      let members ← readJsonMembers (depth - 1) [] members
      if closed then return .object members else throw .malformed
  | .broken => .error .malformed

/-- Reads the items of an array. -/
def readJsonItems (depth : Nat) : List Outline → Except DecodeError (List Json)
  | [] => .ok []
  | o :: rest => do
    let j ← readJson depth o
    let js ← readJsonItems depth rest
    return j :: js

/-- Reads the members of an object; of members with one name the last counts. -/
def readJsonMembers (depth : Nat) (read : List (String × Json)) :
    List (Option String × Outline) → Except DecodeError (List (String × Json))
  | [] => .ok read
  | (none, _) :: _ => .error .malformed
  | (some name, o) :: rest => do
    let j ← readJson depth o
    readJsonMembers depth (insertMember read name j) rest

end

/-- How deep arrays and objects may be nested in a value of no expected shape. -/
def maxDepth : Nat := 128

end Outline

/-! ## Records -/

/-- A field of a record: its name, whether a value fits it, and whether it may be left out at the end of
the array form. -/
structure Field where
  name : String
  check : Outline → Except DecodeError Unit
  mayEnd : Bool

namespace Field

/-- A field that must be there. -/
def required (name : String) (reader : Reader α) : Field := ⟨name, fun o => discard (reader o), false⟩

/-- A field with a value of its own when it is left out. -/
def defaulted (name : String) (reader : Reader α) : Field := ⟨name, fun o => discard (reader o), true⟩

/-- A field that may be left out of the object form alone. -/
def optional (name : String) (reader : Reader α) : Field :=
  ⟨name, fun o => discard (Outline.readOption reader o), false⟩

end Field

/-- The values found for the fields of a record, by name. -/
structure Slots where
  found : List (String × Outline)

namespace Slots

/-- Collects members in their order. -/
def ofMembers (fields : List Field) (found : List (String × Outline)) :
    List (Option String × Outline) → Except DecodeError Slots
  | [] => .ok ⟨found⟩
  | (none, _) :: _ => .error .malformed
  | (some name, value) :: rest =>
    match fields.find? (·.name = name) with
    | none => if ignorable value then ofMembers fields found rest else .error .malformed
    | some field =>
      if (found.lookup name).isSome then .error (.duplicateField name)
      else
        match field.check value with
        | .error e => .error e
        | .ok () => ofMembers fields (found ++ [(name, value)]) rest
where
  /-- Whether a member that is not looked at can be passed over. -/
  ignorable : Outline → Bool
    | .broken => false
    | .array _ closed | .object _ closed => closed
    | _ => true

/-- Collects the items of the array form. -/
def ofItems (closed : Bool) (found : List (String × Outline)) :
    List Field → List Outline → Except DecodeError Slots
  | [], [] => if closed then .ok ⟨found⟩ else .error .malformed
  | [], _ :: _ => .error .malformed
  | field :: fields, [] =>
    if !closed then .error .malformed
    else if field.mayEnd then ofItems closed found fields []
    else .error .wrongShape
  | field :: fields, item :: items =>
    match field.check item with
    | .error e => .error e
    | .ok () => ofItems closed (found ++ [(field.name, item)]) fields items

/-- Collects the fields of a record. -/
def of (fields : List Field) : Outline → Except DecodeError Slots
  | .object members closed => do
    let slots ← ofMembers fields [] members
    if closed then return slots else throw .malformed
  | .array items closed => ofItems closed [] fields items
  | o => .error o.mismatch

/-- The value of a field that must be there. -/
def required (s : Slots) (name : String) (reader : Reader α) : Except DecodeError α :=
  match s.found.lookup name with
  | some o => reader o
  | none => .error (.missingField name)

/-- The value of a field, or another one if it was left out. -/
def defaulted (s : Slots) (name : String) (reader : Reader α) (default : α) :
    Except DecodeError α :=
  match s.found.lookup name with
  | some o => reader o
  | none => .ok default

/-- The value of a field that may be left out or null. -/
def optional (s : Slots) (name : String) (reader : Reader α) : Except DecodeError (Option α) :=
  s.defaulted name (Outline.readOption reader) none

end Slots

end Lorawan.Json
