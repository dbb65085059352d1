import Lorawan.Hex
import Lorawan.Json.Basic
import Lorawan.Json.Numeral
import Lorawan.Text.Utf8

/-!
# Documents up to their first fault

A reader that knows what it expects stops at the first thing that is wrong, be it malformed text or a
value of the wrong shape, whichever comes first.  So a document is read into an outline: the tree of its
values as far as the text is well formed, with a mark where it breaks off.  What is only wrong for a
reader that asks for it (a number beyond the doubles, a string that is not Unicode) stays in the outline
as such.
-/

namespace Lorawan.Json

/-- A value as far as it can be read.  A string that is not Unicode is `text none`; an array or object
that breaks off is not `closed`. -/
inductive Outline where
  | null
  | bool (b : Bool)
  | number (n : Numeral)
  /-- A double that is not written out, as part of a value that was built. -/
  | float (x : Float)
  | text (s : Option String)
  | array (items : List Outline) (closed : Bool)
  | object (members : List (Option String × Outline)) (closed : Bool)
  | broken
  deriving Inhabited

namespace Outline

mutual

/-- Whether two outlines are the same. -/
def equals : Outline → Outline → Bool
  | .null, .null => true
  | .bool b, .bool b' => b = b'
  | .number n, .number n' => n = n'
  | .float x, .float x' => x = x'
  | .text s, .text s' => s = s'
  | .array items closed, .array items' closed' => equalItems items items' && closed = closed'
  | .object members closed, .object members' closed' => equalMembers members members' && closed = closed'
  | .broken, .broken => true
  | _, _ => false

def equalItems : List Outline → List Outline → Bool
  | [], [] => true
  | item :: items, item' :: items' => item.equals item' && equalItems items items'
  | _, _ => false

def equalMembers : List (Option String × Outline) → List (Option String × Outline) → Bool
  | [], [] => true
  | (name, o) :: members, (name', o') :: members' =>
    (name = name' && o.equals o') && equalMembers members members'
  | _, _ => false

end

mutual

theorem equals_iff (o o' : Outline) : o.equals o' = true ↔ o = o' := by
  cases o <;> cases o' <;> simp [equals, equalItems_iff, equalMembers_iff]

theorem equalItems_iff (items items' : List Outline) :
    equalItems items items' = true ↔ items = items' := by
  cases items <;> cases items' <;> simp [equalItems, equals_iff, equalItems_iff]

theorem equalMembers_iff (members members' : List (Option String × Outline)) :
    equalMembers members members' = true ↔ members = members' := by
  cases members <;> cases members' <;> simp [equalMembers, equals_iff, equalMembers_iff, Prod.ext_iff]

end

instance : DecidableEq Outline := fun o o' => decidable_of_iff (o.equals o' = true) (equals_iff o o')

end Outline

/-- A document: its outline, and whether nothing but blanks follows. -/
structure Document where
  root : Outline
  clean : Bool
  deriving DecidableEq, Inhabited

namespace Outline

/-- The bytes after leading blanks. -/
def skipBlanks (bs : List UInt8) : List UInt8 :=
  bs.dropWhile fun b => b == 0x20 || b == 0x0a || b == 0x0d || b == 0x09

/-- The decimal digits at the start, and the rest. -/
def digits (bs : List UInt8) : List Nat × List UInt8 :=
  ((bs.takeWhile isDigit).map fun b => b.toNat - 48, bs.dropWhile isDigit)
where
  isDigit (b : UInt8) : Bool := 0x30 ≤ b && b ≤ 0x39

/-- The fraction, if a point stands first.  A point needs a digit after it. -/
def readFraction (bs : List UInt8) : Option (Option (List Nat) × List UInt8) :=
  match bs with
  | 0x2e :: rest =>
    match digits rest with
    | ([], _) => none
    | (ds, rest) => some (some ds, rest)
  | _ => some (none, bs)

/-- The exponent, if its mark stands first.  The mark needs a digit after it and its sign. -/
def readExponent (bs : List UInt8) : Option (Option (Bool × List Nat) × List UInt8) :=
  match bs with
  | b :: rest =>
    if b == 0x65 || b == 0x45 then
      let (negative, rest) :=
        match rest with
        | 0x2b :: rest => (false, rest)
        | 0x2d :: rest => (true, rest)
        | _ => (false, rest)
      match digits rest with
      | ([], _) => none
      | (ds, rest) => some (some (negative, ds), rest)
    else some (none, bs)
  | [] => some (none, bs)

/-- The digits before the point: a zero stands alone. -/
def readWhole (bs : List UInt8) : Option (List Nat × List UInt8) :=
  match digits bs with
  | ([], _) => none
  | ([0], rest) => some ([0], rest)
  | (0 :: _, _) => none
  | (ds, rest) => some (ds, rest)

/-- A numeral and what follows it. -/
def readNumeral (bs : List UInt8) : Option (Numeral × List UInt8) := do
  let (negative, rest) :=
    match bs with
    | 0x2d :: rest => (true, rest)
    | _ => (false, bs)
  let (whole, rest) ← readWhole rest
  let (fraction, rest) ← readFraction rest
  let (exponent, rest) ← readExponent rest
  return (⟨negative, whole, fraction, exponent⟩, rest)

/-- The byte that a one-letter escape stands for. -/
def simpleEscape? (b : UInt8) : Option UInt8 :=
  if b == 0x22 || b == 0x5c || b == 0x2f then some b
  else if b == 0x62 then some 0x08
  else if b == 0x66 then some 0x0c
  else if b == 0x6e then some 0x0a
  else if b == 0x72 then some 0x0d
  else if b == 0x74 then some 0x09
  else none

/-- Where in a string the reader stands. -/
inductive TextMode where
  | plain
  /-- After a backslash. -/
  | escape
  /-- After this many digits of a code unit, with this value. -/
  | unit (count value : Nat)
  deriving Repr

/-- What has been read of a string: its bytes, last first, the first half of a surrogate pair that waits
for the second, and whether a half has stood alone. -/
structure TextProgress where
  mode : TextMode
  rev : List UInt8
  waiting : Option Nat
  sound : Bool
  deriving Repr

namespace TextProgress

/-- Before the first byte. -/
def start : TextProgress := ⟨.plain, [], none, true⟩

/-- The bytes of a code point added. -/
def pushCode (p : TextProgress) (code : Nat) : TextProgress :=
  { p with rev := (Utf8.encode (Char.ofNat code).toString).reverse ++ p.rev }

/-- A half that waits turns out to stand alone. -/
def settle (p : TextProgress) : TextProgress :=
  { p with waiting := none, sound := p.sound && p.waiting.isNone }

/-- A whole code unit added. -/
def pushUnit (p : TextProgress) (n : Nat) : TextProgress :=
  let p := { p with mode := .plain }
  match p.waiting with
  | some first =>
    if 0xdc00 ≤ n ∧ n ≤ 0xdfff then
      { p with waiting := none }.pushCode (0x10000 + (first - 0xd800) * 0x400 + (n - 0xdc00))
    else single p.settle
  | none => single p
where
  single (p : TextProgress) : TextProgress :=
    if 0xd800 ≤ n ∧ n ≤ 0xdbff then { p with waiting := some n }
    else if 0xdc00 ≤ n ∧ n ≤ 0xdfff then { p with sound := false }
    else p.pushCode n

/-- Reads one byte, other than the closing quote; nothing if it cannot stand here. -/
def step (p : TextProgress) (b : UInt8) : Option TextProgress :=
  match p.mode with
  | .plain =>
    if b == 0x5c then some { p with mode := .escape }
    else if b < 0x20 then none
    else some { p.settle with rev := b :: p.rev }
  | .escape =>
    if b == 0x75 then some { p with mode := .unit 0 0 }
    else (simpleEscape? b).map fun b => { p.settle with mode := .plain, rev := b :: p.rev }
  | .unit count value =>
    (Hex.value? (Char.ofNat b.toNat)).map fun d =>
      let value := value * 16 + d.val
      if count ≥ 3 then p.pushUnit value else { p with mode := .unit (count + 1) value }

/-- The string, unless it is not Unicode. -/
def text? (p : TextProgress) : Option String :=
  if p.settle.sound then Utf8.decode? p.rev.reverse else none

/-- Whether a quote would close the string. -/
def mayClose (p : TextProgress) : Bool := p.mode matches .plain

end TextProgress

/-- The rest of a string after its opening quote, and what follows the closing one. -/
def readText (p : TextProgress) : List UInt8 → Option (Option String × List UInt8)
  | [] => none
  | b :: rest =>
    if b == 0x22 && p.mayClose then some (p.text?, rest)
    else
      match p.step b with
      | none => none
      | some p => readText p rest

/-- The text after a word, if it stands first. -/
def afterWord (word : String) (bs : List UInt8) : Option (List UInt8) :=
  let w := Utf8.encode word
  if w.isPrefixOf bs then some (bs.drop w.length) else none

mutual

/-- Reads one value, and gives what follows it unless the text is broken.  Every call reads at least one
byte, so that the length of the text bounds their depth. -/
def readValue : (fuel : Nat) → List UInt8 → Outline × Option (List UInt8)
  | 0, _ => (.broken, none)
  | fuel + 1, bs =>
    match skipBlanks bs with
    | [] => (.broken, none)
    | 0x22 :: rest =>
      match readText .start rest with
      | some (s, rest) => (.text s, some rest)
      | none => (.broken, none)
    | 0x5b :: rest =>
      match skipBlanks rest with
      | 0x5d :: rest => (.array [] true, some rest)
      | rest =>
        let (items, after) := readItems fuel rest
        (.array items after.isSome, after)
    | 0x7b :: rest =>
      match skipBlanks rest with
      | 0x7d :: rest => (.object [] true, some rest)
      | rest =>
        let (members, after) := readMembers fuel rest
        (.object members after.isSome, after)
    | bs =>
      match afterWord "null" bs, afterWord "true" bs, afterWord "false" bs with
      | some rest, _, _ => (.null, some rest)
      | _, some rest, _ => (.bool true, some rest)
      | _, _, some rest => (.bool false, some rest)
      | _, _, _ =>
        match readNumeral bs with
        | some (n, rest) => (.number n, some rest)
        | none => (.broken, none)

/-- Reads the items of an array up to its closing bracket. -/
def readItems : (fuel : Nat) → List UInt8 → List Outline × Option (List UInt8)
  | 0, _ => ([], none)
  | fuel + 1, bs =>
    match readValue fuel bs with
    | (item, none) => ([item], none)
    | (item, some rest) =>
      match skipBlanks rest with
      | 0x5d :: rest => ([item], some rest)
      | 0x2c :: rest =>
        match skipBlanks rest with
        | 0x5d :: _ => ([item], none)
        | rest =>
          let (items, after) := readItems fuel rest
          (item :: items, after)
      | _ => ([item], none)

/-- Reads the members of an object up to its closing brace. -/
def readMembers : (fuel : Nat) → List UInt8 → List (Option String × Outline) × Option (List UInt8)
  | 0, _ => ([], none)
  | fuel + 1, bs =>
    match skipBlanks bs with
    | 0x22 :: rest =>
      match readText .start rest with
      | none => ([], none)
      | some (name, rest) =>
        match skipBlanks rest with
        | 0x3a :: rest =>
          match readValue fuel rest with
          | (value, none) => ([(name, value)], none)
          | (value, some rest) =>
            match skipBlanks rest with
            | 0x7d :: rest => ([(name, value)], some rest)
            | 0x2c :: rest =>
              let (members, after) := readMembers fuel rest
              ((name, value) :: members, after)
            | _ => ([(name, value)], none)
        | _ => ([(name, .broken)], none)
    | _ => ([], none)

end

mutual

/-- The outline of a value that is already there. -/
def ofJson : Json → Outline
  | .null => .null
  | .bool b => .bool b
  | .int n => .number (.ofInt n)
  | .float x => .float x
  | .text s => .text (some s)
  | .array items => .array (ofItems items) true
  | .object members => .object (ofMembers members) true

/-- The outlines of the items of an array. -/
def ofItems : List Json → List Outline
  | [] => []
  | j :: rest => ofJson j :: ofItems rest

/-- The outlines of the members of an object. -/
def ofMembers : List (String × Json) → List (Option String × Outline)
  | [] => []
  | (name, j) :: rest => (some name, ofJson j) :: ofMembers rest

end

end Outline

/-- Reads a document. -/
def Document.read (bs : List UInt8) : Document :=
  match Outline.readValue (2 * bs.length + 2) bs with
  | (root, none) => ⟨root, true⟩
  | (root, some rest) => ⟨root, (Outline.skipBlanks rest).isEmpty⟩

end Lorawan.Json
