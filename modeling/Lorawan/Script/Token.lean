import Lorawan.Script.Literal
import Lorawan.Text.Blank

/-!
# Tokens of scripts

A script is cut into tokens: at each place the longest lexeme counts, and of two equally long ones the
first kind.  White space and comments separate tokens.  The tokens of a script end where the script does,
or at the first character that begins none.
-/

namespace Lorawan.Script

/-- The marks and operators. -/
inductive Symbol where
  | question | colon | comma | dot
  | openParen | closeParen | openBracket | closeBracket | openBrace | closeBrace
  | or | and
  | less | lessEq | greater | greaterEq | equal | notEqual | isIn
  | plus | minus | times | divide | modulo
  | not | doubleNot | doubleMinus
  deriving DecidableEq, Repr

/-- The smallest parts of a script. -/
inductive Token where
  | symbol (s : Symbol)
  | name (s : String)
  /-- A literal, which may stand for no constant. -/
  | literal (l : Option Literal)
  deriving Repr

/-- A place in a script: the line, and the bytes before it on its line. -/
structure Position where
  line : Nat
  column : Nat
  deriving DecidableEq, Repr

namespace Position

/-- The place after one more character. -/
def next (p : Position) (c : Char) : Position :=
  if c = '\n' then ⟨p.line + 1, 0⟩ else ⟨p.line, p.column + c.utf8Size⟩

/-- The place after some more characters. -/
def after (p : Position) (cs : List Char) : Position := cs.foldl next p

/-- A place as text. -/
def text (p : Position) : String := s!"[{p.line}:{p.column}]"

end Position

/-- The tokens of a script with their lexemes and the places where they begin and end. -/
inductive Tokens where
  | token (t : Token) (lexeme : String) (start stop : Position) (rest : Tokens)
  /-- Nothing follows; the place is the end of the last token. -/
  | finish (place : Position)
  /-- What begins here is no token. -/
  | invalid (place : Position)

/-- How many tokens there are. -/
def Tokens.length : Tokens → Nat
  | .token _ _ _ _ rest => rest.length + 1
  | _ => 0

/-! ## Lexemes -/

/-- Finds the lexeme of one kind at the start of a text, and the token it makes. -/
abbrev Scanner := List Char → Option (List Char × Token)

/-- Whether a character is a decimal digit. -/
def isDigit (c : Char) : Bool := '0' ≤ c && c ≤ '9'

/-- Whether a character is a hexadecimal digit. -/
def isHexDigit (c : Char) : Bool := (Hex.value? c).isSome

/-- Whether a character can begin a name. -/
def isNameStart (c : Char) : Bool := c = '_' || ('a' ≤ c && c ≤ 'z') || ('A' ≤ c && c ≤ 'Z')

/-- Splits off one character, if it is among those. -/
def takeOne (allowed : List Char) : List Char → List Char × List Char
  | c :: rest => if allowed.contains c then ([c], rest) else ([], c :: rest)
  | [] => ([], [])

/-- The number that some decimal digits write. -/
def decimalOf (cs : List Char) : Nat := Decimal.ofDigits (cs.filterMap Decimal.digit?)

/-- A number with its sign. -/
def signedNumber (sign : List Char) (n : Nat) : Int := if sign = ['-'] then -(n : Int) else n

/-- A word of letters, digits and underscores. -/
def scanName : Scanner
  | c :: rest =>
    if isNameStart c then
      let word := c :: rest.takeWhile fun c => isNameStart c || isDigit c
      let s := String.ofList word
      let token :=
        if s = "true" then .literal (some (.bool true))
        else if s = "false" then .literal (some (.bool false))
        else if s = "null" then .literal (some .null)
        else if s = "in" then .symbol .isIn
        else .name s
      some (word, token)
    else none
  | [] => none

/-- An integer in decimal digits. -/
def scanInt : Scanner := fun cs =>
  let (sign, rest) := takeOne ['-'] cs
  let ds := rest.takeWhile isDigit
  if ds.isEmpty then none
  else some (sign ++ ds, .literal (Literal.ofInt? (signedNumber sign (decimalOf ds))))

/-- An integer without a sign, in decimal digits. -/
def scanUInt : Scanner := fun cs =>
  let ds := cs.takeWhile isDigit
  match takeOne ['u', 'U'] (cs.dropWhile isDigit) with
  | ([], _) => none
  | (mark, _) => if ds.isEmpty then none else some (ds ++ mark, .literal (Literal.ofUInt? (decimalOf ds)))

/-- The sign, the mark and the digits of a hexadecimal integer, and the rest. -/
def splitHex (cs : List Char) : Option (List Char × List Char × List Char × List Char) :=
  let (sign, rest) := takeOne ['-'] cs
  match rest with
  | '0' :: x :: rest =>
    let ds := rest.takeWhile isHexDigit
    if (x = 'x' ∨ x = 'X') ∧ !ds.isEmpty then some (sign, ['0', x], ds, rest.dropWhile isHexDigit)
    else none
  | _ => none

/-- An integer in hexadecimal digits. -/
def scanHexInt : Scanner := fun cs => do
  let (sign, mark, ds, _) ← splitHex cs
  let n ← numberIn? 16 ds
  return (sign ++ mark ++ ds, .literal (Literal.ofInt? (signedNumber sign n)))

/-- An integer of a type without signs, in hexadecimal digits.  Its form has room for a sign, but then it
stands for no constant. -/
def scanHexUInt : Scanner := fun cs => do
  let (sign, mark, ds, rest) ← splitHex cs
  match takeOne ['u', 'U'] rest with
  | ([], _) => none
  | (suffix, _) =>
    let n ← numberIn? 16 ds
    return (sign ++ mark ++ ds ++ suffix,
      .literal (if sign.isEmpty then Literal.ofUInt? n else none))

/-- The mark, the sign and the digits of an exponent, and its value. -/
def splitExponent (cs : List Char) : Option (List Char × Int) :=
  match cs with
  | e :: rest =>
    let (sign, rest) := takeOne ['-', '+'] rest
    let ds := rest.takeWhile isDigit
    if (e = 'e' ∨ e = 'E') ∧ !ds.isEmpty then
      some (e :: sign ++ ds, signedNumber sign (decimalOf ds))
    else none
  | [] => none

/-- The double of a sign, the digits before and after the point, and an exponent. -/
def doubleOf (sign whole fraction : List Char) (exponent : Int) : Float :=
  let x := Decimal.exact (decimalOf (whole ++ fraction)) (exponent - fraction.length)
  if sign = ['-'] then -x else x

/-- A double with a point. -/
def scanPointFloat : Scanner := fun cs =>
  let (sign, rest) := takeOne ['-', '+'] cs
  let whole := rest.takeWhile isDigit
  match rest.dropWhile isDigit with
  | '.' :: rest =>
    let fraction := rest.takeWhile isDigit
    if fraction.isEmpty then none
    else
      let (lexeme, exponent) := (splitExponent (rest.dropWhile isDigit)).getD ([], 0)
      some (sign ++ whole ++ '.' :: fraction ++ lexeme,
        .literal (some (.float (doubleOf sign whole fraction exponent))))
  | _ => none

/-- A double without a point, which needs an exponent. -/
def scanExponentFloat : Scanner := fun cs => do
  let (sign, rest) := takeOne ['-', '+'] cs
  let whole := rest.takeWhile isDigit
  if whole.isEmpty then none
  let (lexeme, exponent) ← splitExponent (rest.dropWhile isDigit)
  return (sign ++ whole ++ lexeme, .literal (some (.float (doubleOf sign whole [] exponent))))

/-- What stands before the closing quote.  A backslash and the character after it belong together. -/
def quotedBody (quote : Char) (lines : Bool) : List Char → Option (List Char)
  | '\\' :: c :: rest =>
    if c = '\n' then none else (quotedBody quote lines rest).map fun cs => '\\' :: c :: cs
  | c :: rest =>
    if c = quote then some []
    else if c = '\\' ∨ (c = '\n' ∧ !lines) then none
    else (quotedBody quote lines rest).map (c :: ·)
  | [] => none

/-- The quote at the start of a text and what it encloses. -/
def splitQuoted (lines : Bool) : List Char → Option (Char × List Char)
  | c :: rest => if c = '\'' ∨ c = '"' then (quotedBody c lines rest).map (c, ·) else none
  | [] => none

/-- A string. -/
def scanText : Scanner := fun cs => do
  let (quote, body) ← splitQuoted true cs
  return (quote :: body ++ [quote],
    .literal ((unescapeText quote body).map fun cs => .text (String.ofList cs)))

/-- A raw string. -/
def scanRawText : Scanner := fun cs =>
  match takeOne ['r', 'R'] cs with
  | ([], _) => none
  | (mark, rest) => do
    let (quote, body) ← splitQuoted true rest
    return (mark ++ quote :: body ++ [quote],
      .literal (some (.text (String.ofList (unescapeRaw quote body)))))

/-- A byte string, which stays on its line. -/
def scanBytes : Scanner := fun cs =>
  match takeOne ['b', 'B'] cs with
  | ([], _) => none
  | (mark, rest) => do
    let (quote, body) ← splitQuoted false rest
    return (mark ++ quote :: body ++ [quote], .literal ((unescapeBytes body).map .bytes))

/-- The spellings of the marks and operators. -/
def symbols : List (String × Symbol) :=
  [("?", .question), (":", .colon), (",", .comma), (".", .dot), ("(", .openParen),
    (")", .closeParen), ("[", .openBracket), ("]", .closeBracket), ("\x7b", .openBrace),
    ("\x7d", .closeBrace), ("||", .or), ("&&", .and), ("<", .less), ("<=", .lessEq),
    (">", .greater), (">=", .greaterEq), ("==", .equal), ("!=", .notEqual), ("+", .plus),
    ("-", .minus), ("*", .times), ("/", .divide), ("%", .modulo), ("!", .not),
    ("!!", .doubleNot), ("--", .doubleMinus)]

/-- A given mark or operator. -/
def scanSymbol (spelling : String) (s : Symbol) : Scanner := fun cs =>
  if spelling.toList.isPrefixOf cs then some (spelling.toList, .symbol s) else none

/-- The scanners of all kinds of token. -/
def scanners : List Scanner :=
  symbols.map (fun (spelling, s) => scanSymbol spelling s)
  ++ [scanName, scanInt, scanUInt, scanHexInt, scanHexUInt, scanPointFloat, scanExponentFloat,
    scanText, scanRawText, scanBytes]

/-- The longest lexeme at the start of a text. -/
def longest (cs : List Char) : Option (List Char × Token) :=
  (scanners.filterMap (· cs)).foldl
    (fun best found =>
      match best with
      | none => some found
      | some b => if b.1.length < found.1.length then some found else some b)
    none

/-! ## Scripts -/

/-- The white space or the comment at the start of a text. -/
def separator : List Char → List Char
  | '/' :: '/' :: rest =>
    let line := rest.takeWhile fun c => c ≠ '\n' && c ≠ '\r'
    let ends := (rest.dropWhile fun c => c ≠ '\n' && c ≠ '\r').takeWhile fun c => c = '\n' || c = '\r'
    '/' :: '/' :: line ++ ends
  | cs => cs.takeWhile Text.isBlank

namespace Tokens

/-- The tokens of the text that begins at a place.  Every call but the last reads a character, so that the
length of the text bounds their number. -/
def scan : (fuel : Nat) → (last place : Position) → List Char → Tokens
  | 0, last, _, _ => .finish last
  | fuel + 1, last, place, cs =>
    match separator cs with
    | c :: skipped =>
      scan fuel last (place.after (c :: skipped)) (cs.drop (skipped.length + 1))
    | [] =>
      match cs, longest cs with
      | [], _ => .finish last
      | _ :: _, none => .invalid place
      | _ :: _, some (lexeme, t) =>
        let stop := place.after lexeme
        .token t (String.ofList lexeme) place stop (scan fuel stop stop (cs.drop lexeme.length))

/-- The tokens of a script. -/
def ofText (s : String) : Tokens := scan (s.toList.length + 1) ⟨0, 0⟩ ⟨0, 0⟩ s.toList

end Tokens

end Lorawan.Script
