import Lorawan.Decimal.Layout
import Lorawan.Json.Basic

/-!
# Writing JSON

A value as compact text.  Quotes, backslashes and control characters are escaped and all else stands for
itself.  A double that is no number is written as null.
-/

namespace Lorawan.Json

/-- A character inside a string. -/
def escapeChar (c : Char) : String :=
  match c with
  | '"' => "\\\""
  | '\\' => "\\\\"
  | '\n' => "\\n"
  | '\r' => "\\r"
  | '\t' => "\\t"
  | '\x08' => "\\b"
  | '\x0c' => "\\f"
  | c =>
    if c.toNat < 0x20 then
      let ds := Nat.toDigits 16 c.toNat
      "\\u" ++ String.ofList (List.replicate (4 - ds.length) '0' ++ ds)
    else c.toString

/-- A string between quotes. -/
def escape (s : String) : String := "\"" ++ String.join (s.toList.map escapeChar) ++ "\""

/-- A double. -/
def floatText (x : Float) : String :=
  if x.isFinite then Decimal.Layout.json.format x else "null"

mutual

/-- A value as text. -/
def render : Json → String
  | .null => "null"
  | .bool true => "true"
  | .bool false => "false"
  | .int n => toString n
  | .float x => floatText x
  | .text s => escape s
  | .array items => "[" ++ ",".intercalate (renderItems items) ++ "]"
  | .object members => "\x7b" ++ ",".intercalate (renderMembers members) ++ "\x7d"

/-- The items of an array as texts. -/
def renderItems : List Json → List String
  | [] => []
  | j :: rest => render j :: renderItems rest

/-- The members of an object as texts. -/
def renderMembers : List (String × Json) → List String
  | [] => []
  | (name, j) :: rest => (escape name ++ ":" ++ render j) :: renderMembers rest

end

end Lorawan.Json
