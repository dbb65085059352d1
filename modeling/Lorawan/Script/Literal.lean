import Lorawan.Decimal.Layout
import Lorawan.Decimal.Reading
import Lorawan.Hex
import Lorawan.Text.Quoted
import Lorawan.Text.Utf8

/-!
# Literals of scripts

The constants that a script can write, and what the characters of a literal stand for.  A literal may
have the form of a constant and yet stand for none: an integer that is too large, or an escape that does
not exist.
-/

namespace Lorawan.Script

/-- A constant. -/
inductive Literal where
  | int (n : Int64)
  | uint (n : UInt64)
  | float (x : Float)
  | text (s : String)
  | bytes (bs : List UInt8)
  | bool (b : Bool)
  | null
  deriving Repr

/-- A list of described items between brackets. -/
def describeList (items : List String) : String := "[" ++ ", ".intercalate items ++ "]"

/-- Bytes as a list of numbers. -/
def describeBytes (bs : List UInt8) : String := describeList (bs.map fun b => toString b.toNat)

namespace Literal

/-- A constant with its type, for people. -/
def describe : Literal → String
  | int n => s!"Int({n.toInt})"
  | uint n => s!"UInt({n.toNat})"
  | float x => "Float(" ++ Decimal.Layout.described.format x ++ ")"
  | text s => "String(" ++ Text.quoted s ++ ")"
  | bytes bs => "Bytes(" ++ describeBytes bs ++ ")"
  | bool b => s!"Bool({b})"
  | null => "Null"

/-- The integer with a sign, if it has 64 bits. -/
def ofInt? (n : Int) : Option Literal :=
  if Int64.minValue.toInt ≤ n ∧ n ≤ Int64.maxValue.toInt then some (.int (Int64.ofInt n)) else none

/-- The integer without a sign, if it has 64 bits. -/
def ofUInt? (n : Int) : Option Literal :=
  if 0 ≤ n ∧ n < UInt64.size then some (.uint (UInt64.ofNat n.toNat)) else none

end Literal

/-! ## Digits -/

/-- The value of a digit in a base up to sixteen. -/
def digitIn? (base : Nat) (c : Char) : Option Nat := do
  let d ← Hex.value? c
  if d.val < base then some d.val else none

/-- The number that some digits write in a base.  A plus sign may stand before them. -/
def numberIn? (base : Nat) (cs : List Char) : Option Nat :=
  let ds :=
    match cs with
    | '+' :: ds => ds
    | ds => ds
  if ds.isEmpty then none
  else (ds.mapM (digitIn? base)).map fun ds => ds.foldl (fun n d => n * base + d) 0

/-- The character with a number, if there is one. -/
def charOf? (n : Nat) : Option Char :=
  if n < 0xd800 ∨ (0xe000 ≤ n ∧ n < 0x110000) then some (Char.ofNat n) else none

/-! ## Escapes -/

/-- The character that a one-letter escape stands for. -/
def simpleEscape? (c : Char) : Option Char :=
  match c with
  | 'a' => some '\x07'
  | 'b' => some '\x08'
  | 'f' => some '\x0c'
  | 'n' => some '\n'
  | 'r' => some '\r'
  | 't' => some '\t'
  | 'v' => some '\x0b'
  | '\\' | '?' | '`' => some c
  | _ => none

/-- The characters that the inside of a string stands for.  An escaped quote of the other kind keeps its
backslash. -/
def unescapeText (quote : Char) : List Char → Option (List Char)
  | [] => some []
  | '\\' :: 'x' :: a :: b :: rest => do
    let c ← numberIn? 16 [a, b] >>= charOf?
    return c :: (← unescapeText quote rest)
  | '\\' :: 'u' :: a :: b :: c :: d :: rest => do
    let c ← numberIn? 16 [a, b, c, d] >>= charOf?
    return c :: (← unescapeText quote rest)
  | '\\' :: 'U' :: a :: b :: c :: d :: e :: f :: g :: h :: rest => do
    let c ← numberIn? 16 [a, b, c, d, e, f, g, h] >>= charOf?
    return c :: (← unescapeText quote rest)
  | '\\' :: c :: rest =>
    if c = '\'' ∨ c = '"' then do
      let cs ← unescapeText quote rest
      return if c = quote then c :: cs else '\\' :: c :: cs
    else
      match simpleEscape? c with
      | some e => (unescapeText quote rest).map (e :: ·)
      | none =>
        if '0' ≤ c ∧ c ≤ '3' then
          match rest with
          | d :: e :: rest => do
            let c ← numberIn? 8 [c, d, e] >>= charOf?
            return c :: (← unescapeText quote rest)
          | _ => none
        else none
  | c :: rest => if c = '\\' then none else (unescapeText quote rest).map (c :: ·)

/-- The characters that the inside of a raw string stands for: each for itself, but for an escaped quote
of the string's own kind. -/
def unescapeRaw (quote : Char) : List Char → List Char
  | '\\' :: c :: rest =>
    if c = quote then c :: unescapeRaw quote rest else '\\' :: c :: unescapeRaw quote rest
  | c :: rest => c :: unescapeRaw quote rest
  | [] => []

/-- The bytes that the inside of a byte string stands for.  Escapes give a byte by number; all else
stands for its bytes. -/
def unescapeBytes : List Char → Option (List UInt8)
  | [] => some []
  | '\\' :: 'x' :: a :: b :: rest => do
    let n ← numberIn? 16 [a, b]
    return UInt8.ofNat n :: (← unescapeBytes rest)
  | '\\' :: a :: b :: c :: rest =>
    if '0' ≤ a ∧ a ≤ '3' then do
      let n ← numberIn? 8 [a, b, c]
      return UInt8.ofNat n :: (← unescapeBytes rest)
    else none
  | c :: rest =>
    if c = '\\' then none else (unescapeBytes rest).map (Utf8.encode c.toString ++ ·)

end Lorawan.Script
