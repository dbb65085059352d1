import Lorawan.Decimal.Reading
import Lorawan.Text.Blank
import Lorawan.Text.Utf8
import Lorawan.Time.Instant

/-!
# Times as text

The internet date and time format.  Texts are written with as few of zero, three, six or nine digits of
the second's fraction as are exact.  There are two readers: a strict one, whose errors tell what is wrong
first, and a relaxed one, which allows blanks between the parts.
-/

namespace Lorawan.Time

/-- Why a text is not a time. -/
inductive TimeError where
  | outOfRange
  | invalid
  | tooShort
  | tooLong
  deriving DecidableEq, Repr

/-- The wording of a time error. -/
def TimeError.message : TimeError → String
  | .outOfRange => "input is out of range"
  | .invalid => "input contains invalid characters"
  | .tooShort => "premature end of input"
  | .tooLong => "trailing input"

/-! ## Writing -/

/-- A number padded with zeros to a width. -/
def padded (width n : Nat) : String :=
  let ds := Nat.toDigits 10 n
  String.ofList (List.replicate (width - ds.length) '0' ++ ds)

/-- A year: four digits, with a sign outside of that range. -/
def yearText (y : Int) : String :=
  if 0 ≤ y ∧ y ≤ 9999 then padded 4 y.toNat
  else (if y < 0 then "-" else "+") ++ padded 4 y.natAbs

/-- The fraction of a second. -/
def fractionText (nanos : Nat) : String :=
  if nanos = 0 then ""
  else if nanos % 1000000 = 0 then "." ++ padded 3 (nanos / 1000000)
  else if nanos % 1000 = 0 then "." ++ padded 6 (nanos / 1000)
  else "." ++ padded 9 nanos

/-- A date and time of day. -/
def Clock.text (c : Clock) : String :=
  let leap := if c.nanos ≥ nanosPerSecond then 1 else 0
  let nanos := if c.nanos ≥ nanosPerSecond then c.nanos - nanosPerSecond else c.nanos
  yearText c.date.year ++ "-" ++ padded 2 c.date.month ++ "-" ++ padded 2 c.date.day ++ "T"
    ++ padded 2 (c.second / 3600) ++ ":" ++ padded 2 (c.second / 60 % 60) ++ ":"
    ++ padded 2 (c.second % 60 + leap) ++ fractionText nanos

/-- A distance from universal time in hours and minutes. -/
def offsetText (offset : Int) : String :=
  let minutes := offset.natAbs / 60
  (if offset < 0 then "-" else "+") ++ padded 2 (minutes / 60) ++ ":" ++ padded 2 (minutes % 60)

/-- A time with its distance from universal time. -/
def Zoned.text (z : Zoned) : String := z.clock.text ++ offsetText z.offset

/-- A time in universal time. -/
def Instant.text (t : Instant) : String := (Zoned.mk t 0).clock.text ++ "Z"

/-! ## Strict reading -/

/-- A step of the strict reader over the bytes that are left. -/
abbrev Scan (α : Type) := List UInt8 → Except TimeError (α × List UInt8)

/-- Whether a byte is a decimal digit. -/
def isDigitByte (b : UInt8) : Bool := 0x30 ≤ b && b ≤ 0x39

/-- A decimal digit. -/
def scanDigit : Scan Nat
  | b :: rest => if isDigitByte b then .ok (b.toNat - 48, rest) else .error .invalid
  | [] => .error .tooShort

/-- Two decimal digits. -/
def scanPair : Scan Nat := fun bs => do
  let (a, bs) ← scanDigit bs
  let (b, bs) ← scanDigit bs
  return (a * 10 + b, bs)

/-- One of some bytes. -/
def scanOneOf (allowed : List UInt8) : Scan Unit
  | b :: rest => if allowed.contains b then .ok ((), rest) else .error .invalid
  | [] => .error .tooShort

/-- The digits of a fraction as nanoseconds; digits after the ninth are passed over. -/
def scanNanos : Scan Nat := fun bs => do
  let ds := bs.takeWhile isDigitByte
  let rest := bs.dropWhile isDigitByte
  if bs.isEmpty then throw .tooShort
  if ds.isEmpty then throw .invalid
  let shown := (ds.take 9).map fun b => b.toNat - 48
  return (Decimal.ofDigits shown * Nat.pow 10 (9 - shown.length), rest)

/-- The minus sign, in bytes. -/
def minusSign : List UInt8 := [0xe2, 0x88, 0x92]

/-- The distance from universal time, in seconds: `Z`, or hours and minutes with `separator` between. -/
def scanOffset (separator : Scan Unit) : Scan Int := fun bs => do
  match bs with
  | [] => throw .tooShort
  | b :: rest =>
    if b == 0x5a || b == 0x7a then return (0, rest)
    let (negative, bs) ←
      if b == 0x2b then pure (false, rest)
      else if b == 0x2d then pure (true, rest)
      else if minusSign.isPrefixOf bs then pure (true, bs.drop 3)
      else throw .invalid
    if bs.length < 2 then throw .tooShort
    let (hours, bs) ← scanPair bs
    let ((), bs) ← separator bs
    let (minutes, bs) ←
      match bs with
      | m :: n :: rest =>
        if isDigitByte m && isDigitByte n then
          if m ≥ 0x36 then throw .outOfRange
          else pure ((m.toNat - 48) * 10 + (n.toNat - 48), rest)
        else throw .invalid
      | _ => throw .tooShort
    let seconds : Int := hours * 3600 + minutes * 60
    return (if negative then -seconds else seconds, bs)

/-- The time of a clock reading, if the distance from universal time is less than a day. -/
def zonedOf? (date : Date) (hour minute second nanos : Nat) (offset : Int) : Option Zoned :=
  if offset.natAbs < 86400 then
    some (.ofClock ⟨date, hour * 3600 + minute * 60 + second, nanos⟩ offset)
  else none

/-- Reads a time strictly. -/
def parseStrict (s : String) : Except TimeError Zoned := do
  let bs := Utf8.encode s
  if bs.length < 19 then throw .tooShort
  let (century, bs) ← scanPair bs
  let (years, bs) ← scanPair bs
  let ((), bs) ← scanOneOf [0x2d] bs
  let (month, bs) ← scanPair bs
  let ((), bs) ← scanOneOf [0x2d] bs
  let (day, bs) ← scanPair bs
  let some date := Date.of? (century * 100 + years : Nat) month day | throw .outOfRange
  let ((), bs) ← scanOneOf [0x74, 0x54, 0x20] bs
  let (hour, bs) ← scanPair bs
  let ((), bs) ← scanOneOf [0x3a] bs
  let (minute, bs) ← scanPair bs
  let ((), bs) ← scanOneOf [0x3a] bs
  let (second, bs) ← scanPair bs
  let leap := if second = 60 then nanosPerSecond else 0
  let second := if second = 60 then 59 else second
  let (fraction, bs) ←
    match bs with
    | 0x2e :: rest => scanNanos rest
    | bs => pure (0, bs)
  let nanos := leap + fraction
  if hour ≥ 24 ∨ minute ≥ 60 ∨ second ≥ 60 then throw .outOfRange
  let (offset, bs) ← scanOffset (scanOneOf [0x3a]) bs
  unless bs.isEmpty do throw .tooLong
  match zonedOf? date hour minute second nanos offset with
  | some z => return z
  | none => throw .outOfRange

/-! ## Relaxed reading -/

/-- A number of at most `width` digits after blanks. -/
def readNumber (width : Nat) (cs : List Char) : Option (Nat × List Char) :=
  let cs := Text.trimStart cs
  let ds := (cs.take width).takeWhile fun c => (Decimal.digit? c).isSome
  if ds.isEmpty then none
  else some (Decimal.ofDigits (ds.filterMap Decimal.digit?), cs.drop ds.length)

/-- A year, whose digits are not limited if it has a sign. -/
def readYear (cs : List Char) : Option (Int × List Char) :=
  match Text.trimStart cs with
  | '-' :: rest =>
    if (rest.head?.bind Decimal.digit?).isNone then none
    else (readNumber rest.length rest).map fun (n, cs) => (-(n : Int), cs)
  | '+' :: rest =>
    if (rest.head?.bind Decimal.digit?).isNone then none
    else (readNumber rest.length rest).map fun (n, cs) => ((n : Int), cs)
  | cs => (readNumber 4 cs).map fun (n, cs) => ((n : Int), cs)

/-- A character after blanks. -/
def readMark (mark : Char) (cs : List Char) : Option (List Char) :=
  match Text.trimStart cs with
  | c :: rest => if c = mark then some rest else none
  | [] => none

/-- The bytes after blanks and colons. -/
def skipColons (bs : List UInt8) : List UInt8 :=
  match Utf8.decode? bs with
  | some s => Utf8.encode (String.ofList (s.toList.dropWhile fun c => c = ':' || Text.isBlank c))
  | none => bs

/-- Whether the text begins with the three letters for universal time, in any case. -/
def startsUniversal : List Char → Bool
  | a :: b :: c :: _ => a.toUpper = 'U' && b.toUpper = 'T' && c.toUpper = 'C'
  | _ => false

/-- The distance from universal time, with any number of colons and blanks before the minutes. -/
def readOffset (cs : List Char) : Option (Int × List Char) :=
  let cs := Text.trimStart cs
  if startsUniversal cs then some (0, cs.drop 3)
  else
    match scanOffset (fun bs => .ok ((), skipColons bs)) (Utf8.encode (String.ofList cs)) with
    | .error _ => none
    | .ok (offset, bs) => (Utf8.decode? bs).map fun s => (offset, s.toList)

/-- What follows the letter or blank between date and time of day. -/
def readSeparator : List Char → Option (List Char)
  | c :: rest => if c = 't' ∨ c = 'T' ∨ c = ' ' then some rest else none
  | [] => none

/-- The fraction of a second in nanoseconds, if a point stands first.  A point needs a digit after it;
digits after the ninth are passed over. -/
def readFraction (cs : List Char) : Option (Nat × List Char) :=
  match cs with
  | '.' :: rest =>
    let ds := rest.takeWhile fun c => (Decimal.digit? c).isSome
    if ds.isEmpty then none
    else
      let shown := (ds.take 9).filterMap Decimal.digit?
      some (Decimal.ofDigits shown * Nat.pow 10 (9 - shown.length), rest.drop ds.length)
  | cs => some (0, cs)

/-- The first year that there are times in. -/
def minYear : Int := -262143

/-- The last year that there are times in. -/
def maxYear : Int := 262142

/-- Reads a time with blanks allowed between its parts. -/
def parseRelaxed? (s : String) : Option Zoned := do
  let (year, cs) ← readYear s.toList
  let cs ← readMark '-' cs
  let (month, cs) ← readNumber 2 cs
  let cs ← readMark '-' cs
  let (day, cs) ← readNumber 2 cs
  let cs ← readSeparator cs
  let (hour, cs) ← readNumber 2 cs
  let cs ← readMark ':' cs
  let (minute, cs) ← readNumber 2 cs
  let cs ← readMark ':' cs
  let (second, cs) ← readNumber 2 cs
  let (fraction, cs) ← readFraction cs
  let (offset, cs) ← readOffset cs
  guard (Text.trimStart cs).isEmpty
  guard (hour ≤ 23 ∧ minute ≤ 59 ∧ second ≤ 60 ∧ minYear ≤ year ∧ year ≤ maxYear)
  let date ← Date.of? year month day
  if second = 60 then zonedOf? date hour minute 59 (fraction + nanosPerSecond) offset
  else zonedOf? date hour minute second fraction offset

end Lorawan.Time
