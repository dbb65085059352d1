import Lorawan.Script.Token
import Lorawan.Time.Rfc3339

/-!
# Lengths of time as text

A length of time is written as numbers with units, such as `1h30m` or `1.5s`, and may have a minus sign
in front.  The text of a negative one shows the minus sign and then the number of nanoseconds as a word of
64 bits without a sign.
-/

namespace Lorawan.Script.Duration

/-- The nanoseconds of one unit, by its name.  Longer names come first. -/
def units : List (String × Nat) :=
  [("ms", 1000000), ("us", 1000), ("ns", 1), ("h", 3600000000000), ("m", 60000000000),
    ("s", 1000000000)]

/-! ## Reading -/

/-- Why a text is no length of time: no number, digits missing from an exponent, or no unit stands
there. -/
inductive DurationError where
  | number (rest : List Char)
  | exponent (rest : List Char)
  | unit (rest : List Char)
  deriving DecidableEq, Repr

/-- What an error shows of the text. -/
def describeFault (severity : String) (rest : List Char) (code : String) : String :=
  "Parsing " ++ severity ++ ": Error \x7b input: " ++ Text.quoted (String.ofList rest) ++ ", code: "
    ++ code ++ " \x7d"

/-- The wording of an error. -/
def DurationError.message : DurationError → String
  | number rest => describeFault "Error" rest "Float"
  | exponent rest => describeFault "Failure" rest "Digit"
  | unit rest => describeFault "Error" rest "Char"

/-- The digits before and after the point, one of which may be missing. -/
def splitDecimal (cs : List Char) : Option (List Char × List Char × List Char) :=
  let whole := cs.takeWhile isDigit
  match whole, cs.dropWhile isDigit with
  | [], '.' :: rest =>
    let fraction := rest.takeWhile isDigit
    if fraction.isEmpty then none else some ([], fraction, rest.dropWhile isDigit)
  | [], _ => none
  | whole, '.' :: rest => some (whole, rest.takeWhile isDigit, rest.dropWhile isDigit)
  | whole, rest => some (whole, [], rest)

/-- Whether a text begins with a word, in either case. -/
def startsWithWord (word : String) (cs : List Char) : Bool :=
  (cs.take word.length).map Char.toLower == word.toList

/-- The number at the start of a text, and the rest. -/
def readNumber (cs : List Char) : Except DurationError (Float × List Char) :=
  let (sign, unsigned) := takeOne ['-', '+'] cs
  match splitDecimal unsigned with
  | some (whole, fraction, rest) =>
    match rest with
    | e :: digits =>
      if e = 'e' ∨ e = 'E' then
        match splitExponent rest with
        | some (lexeme, exponent) =>
          .ok (doubleOf sign whole fraction exponent, rest.drop lexeme.length)
        | none => .error (.exponent (takeOne ['-', '+'] digits).2)
      else .ok (doubleOf sign whole fraction 0, rest)
    | [] => .ok (doubleOf sign whole fraction 0, [])
  | none =>
    if startsWithWord "nan" cs then .ok (0.0 / 0.0, cs.drop 3)
    else if startsWithWord "inf" cs then .ok (1.0 / 0.0, cs.drop 3)
    else .error (.number cs)

/-- The unit at the start of a text, and the rest. -/
def readUnit (cs : List Char) : Except DurationError (Nat × List Char) :=
  match units.find? fun (name, _) => name.toList.isPrefixOf cs with
  | some (name, nanos) => .ok (nanos, cs.drop name.length)
  | none => .error (.unit cs)

/-- A number with its unit in whole nanoseconds, and the rest. -/
def readPart (cs : List Char) : Except DurationError (Int × List Char) := do
  let (x, rest) ← readNumber cs
  let (nanos, rest) ← readUnit rest
  return ((x * Float.ofNat nanos).toInt64.toInt, rest)

/-- The sum of the parts at the start of a text.  What comes after the last of them is passed over. -/
def readParts : (fuel : Nat) → Int → List Char → Except DurationError Int
  | 0, total, _ => .ok total
  | fuel + 1, total, cs =>
    match readPart cs with
    | .ok (part, rest) => readParts fuel (total + part) rest
    | .error (.exponent rest) => .error (.exponent rest)
    | .error _ => .ok total

/-- Reads a length of time. -/
def parse (s : String) : Except DurationError Int := do
  let (sign, cs) := takeOne ['-'] s.toList
  if cs = ['0'] then return 0
  let (first, rest) ← readPart cs
  let total ← readParts rest.length first rest
  return if sign.isEmpty then total else -total

/-! ## Writing -/

/-- A number of units of `10 ^ places` parts, without needless zeros. -/
def decimal (n places : Nat) : String :=
  let unit := Nat.pow 10 places
  let fraction := ((Time.padded places (n % unit)).toList.reverse.dropWhile (· = '0')).reverse
  toString (n / unit) ++ (if fraction.isEmpty then "" else "." ++ String.ofList fraction)

/-- A number of nanoseconds as text. -/
def unsignedText (n : Nat) : String :=
  if n = 0 then "0s"
  else if n < 1000 then toString n ++ "ns"
  else if n < 1000000 then decimal n 3 ++ "µs"
  else if n < 1000000000 then decimal n 6 ++ "ms"
  else
    let minutes := n / 60000000000
    let seconds := decimal (n % 60000000000) 9 ++ "s"
    if minutes = 0 then seconds
    else if minutes < 60 then s!"{minutes}m" ++ seconds
    else s!"{minutes / 60}h{minutes % 60}m" ++ seconds

/-- A length of time as text. -/
def text (nanos : Int) : String :=
  if nanos < 0 then "-" ++ unsignedText (UInt64.size - nanos.natAbs) else unsignedText nanos.toNat

end Lorawan.Script.Duration
