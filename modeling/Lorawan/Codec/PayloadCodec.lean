import Lorawan.Json.Shape

/-!
# Codecs of applications

How the payloads of an application's devices are decoded: not at all, as Cayenne low-power payloads, or
by scripts of the application.
-/

namespace Lorawan

open Json (Reader Field Slots DecodeError Outline)
open Json.Outline

/-- The codec of an application. -/
inductive PayloadCodec where
  | none
  | cayenneLpp
  | customScript (encoder decoder : String)
  deriving DecidableEq, Repr

namespace PayloadCodec

/-- The tag under which a codec is stored. -/
def tag : PayloadCodec → String
  | none => ""
  | cayenneLpp => "CAYENNE_LPP"
  | customScript .. => "CUSTOM_CEL"

/-- The codec that is stored under a tag.  An unknown tag means that payloads are left as they are. -/
def ofParts (tag encoder decoder : String) : PayloadCodec :=
  if tag = "CAYENNE_LPP" then cayenneLpp
  else if tag = "CUSTOM_CEL" then customScript encoder decoder
  else none

/-- The kinds of codec as the JSON form tells them apart. -/
inductive Kind where
  | none
  | cayenneLpp
  | customScript
  deriving DecidableEq, Repr

namespace Kind

/-- All kinds. -/
def all : List Kind := [.none, .cayenneLpp, .customScript]

/-- The name of a kind. -/
def label : Kind → String
  | none => "NONE"
  | cayenneLpp => "CAYENNE_LPP"
  | customScript => "CUSTOM_SCRIPT"

/-- Reads the name of a kind. -/
def read : Reader Kind := fun o => do
  let s ← o.readString
  match all.find? (·.label = s) with
  | some k => return k
  | Option.none => throw (.unknownVariant s (all.map label))

end Kind

/-- A codec as JSON. -/
def toJson : PayloadCodec → Json
  | none => .object [("kind", .text Kind.none.label)]
  | cayenneLpp => .object [("kind", .text Kind.cayenneLpp.label)]
  | customScript encoder decoder =>
    .object [("kind", .text Kind.customScript.label), ("encoder_script", .text encoder),
      ("decoder_script", .text decoder)]

/-- The fields of a codec of scripts. -/
def scriptFields : List Field :=
  [.required "encoder_script" readString, .required "decoder_script" readString]

/-- Reads what stands beside the kind. -/
def readContent (kind : Kind) (content : Outline) : Except DecodeError PayloadCodec :=
  match kind with
  | .none => .ok none
  | .cayenneLpp => .ok cayenneLpp
  | .customScript => do
    let s ← Slots.of scriptFields content
    return customScript (← s.required "encoder_script" readString)
      (← s.required "decoder_script" readString)

/-- Reads the members of the object form in their order: the kind, and the others, which are nested in fewer
than `depth` arrays and objects, as they are. -/
def readMembers (depth : Nat) (kind : Option Kind) (others : List (Option String × Outline)) :
    List (Option String × Outline) →
      Except DecodeError (Option Kind × List (Option String × Outline))
  | [] => .ok (kind, others)
  | (Option.none, _) :: _ => .error .malformed
  | (some name, value) :: rest =>
    if name = "kind" then
      if kind.isSome then .error (.duplicateField "kind")
      else
        match Kind.read value with
        | .error e => .error e
        | .ok k => readMembers depth (some k) others rest
    else
      match readJson depth value with
      | .error e => .error e
      | .ok _ => readMembers depth kind (others ++ [(some name, value)]) rest

/-- Reads a codec: an object with its kind among its members, or an array that begins with it.  What stands
beside the kind is nested in fewer than `depth` arrays and objects. -/
def readWithin (depth : Nat) : Reader PayloadCodec
  | .object members closed => do
    let (kind, others) ← readMembers depth Option.none [] members
    if !closed then throw .malformed
    match kind with
    | some kind => readContent kind (.object others true)
    | Option.none => throw (.missingField "kind")
  | .array items closed =>
    match items with
    | [] => if closed then .error (.missingField "kind") else .error .malformed
    | first :: rest => do
      let kind ← Kind.read first
      let _ ← rest.mapM (readJson depth)
      if !closed then throw .malformed
      if kind = .customScript || rest.isEmpty then readContent kind (.array rest true)
      else throw .wrongShape
  | o => .error o.mismatch

/-- Reads a codec from a document. -/
def read : Reader PayloadCodec := readWithin (maxDepth - 1)

end PayloadCodec

end Lorawan
