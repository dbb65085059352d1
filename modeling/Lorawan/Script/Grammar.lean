import Lorawan.Halt
import Lorawan.Script.Expr
import Lorawan.Script.Token

/-!
# The grammar of scripts

A script is one expression.  From loose to tight: the conditional, or, and, one comparison, sums,
products, one operator before an operand, and operands with accesses after them.  Tokens are looked at
one at a time, so the first thing that is wrong is the one reported; a literal that stands for no constant
cuts the reading short as soon as the token after it is seen.
-/

namespace Lorawan.Script

/-- Why a text is no script. -/
inductive SyntaxFault where
  | token (lexeme : String) (start stop : Position)
  | finish (place : Position)
  | invalid (place : Position)
  deriving DecidableEq, Repr

/-- The wording of a syntax fault. -/
def SyntaxFault.message : SyntaxFault → String
  | .token lexeme start stop =>
    s!"unrecognized token: '{lexeme}' at {start.text}->{stop.text}"
  | .finish place => s!"unrecognized eof at {place.text}"
  | .invalid place => s!"invalid token at {place.text}"

/-- Reads a part of a script and leaves the tokens after it. -/
abbrev Parser (α : Type) := Tokens → Attempt SyntaxFault (α × Tokens)

namespace Parser

/-- The fault of tokens that do not go on as they should. -/
def unexpected : Tokens → Attempt SyntaxFault α
  | .token _ lexeme start stop _ => .fail (.token lexeme start stop)
  | .finish place => .fail (.finish place)
  | .invalid place => .fail (.invalid place)

/-- Goes on to the tokens after one that was read, which must begin with a token or the end. -/
def advance (rest : Tokens) : Attempt SyntaxFault Tokens :=
  match rest with
  | .invalid place => .fail (.invalid place)
  | rest => .ok rest

/-- Reads a token of some kind, if one stands first. -/
def accept? (kind : Token → Option α) (ts : Tokens) : Attempt SyntaxFault (Option (α × Tokens)) :=
  match ts with
  | .token t _ _ _ rest =>
    match kind t with
    | some a => do return some (a, ← advance rest)
    | none => .ok none
  | _ => .ok none

/-- Reads a token of some kind. -/
def accept (kind : Token → Option α) : Parser α := fun ts => do
  match ← accept? kind ts with
  | some found => return found
  | none => unexpected ts

/-- The kind of one symbol. -/
def symbolKind (s : Symbol) : Token → Option Unit
  | .symbol t => if t = s then some () else none
  | _ => none

/-- The kind of names. -/
def nameKind : Token → Option String
  | .name s => some s
  | _ => none

/-- The kind of some operators. -/
def operatorKind (table : List (Symbol × α)) : Token → Option α
  | .symbol s => table.lookup s
  | _ => none

/-- Reads one symbol. -/
def symbol (s : Symbol) : Parser Unit := accept (symbolKind s)

/-- Repeats a step that grows a value, until it no longer applies.  A step that applies reads a token, so
that the number of tokens bounds the repetitions. -/
def grow (step : α → Tokens → Attempt SyntaxFault (Option (α × Tokens))) :
    (fuel : Nat) → α → Parser α
  | 0, a, ts => .ok (a, ts)
  | fuel + 1, a, ts => do
    match ← step a ts with
    | some (a, ts) => grow step fuel a ts
    | none => return (a, ts)

/-- Operands with operators between them, grouped to the left. -/
def leftChain (table : List (Symbol × (Expr → Expr → Expr))) (operand : Parser Expr) :
    Parser Expr := fun ts => do
  let (first, ts) ← operand ts
  grow
    (fun left ts => do
      match ← accept? (operatorKind table) ts with
      | none => return none
      | some (combine, ts) =>
        let (right, ts) ← operand ts
        return some (combine left right, ts))
    ts.length first ts

/-- Items with commas between them, up to a closing symbol.  A comma may follow the last. -/
def separated (item : Parser α) (closing : Symbol) : Parser (List α) := fun ts => do
  let (items, ts) ←
    grow
      (fun (items : List α × Bool) ts => do
        match items, ← accept? (symbolKind closing) ts with
        | (_, false), _ => return none
        | _, some _ => return none
        | (items, true), none =>
          let (a, ts) ← item ts
          match ← accept? (symbolKind .comma) ts with
          | some (_, ts) => return some ((items ++ [a], true), ts)
          | none => return some ((items ++ [a], false), ts))
      (ts.length + 1) ([], true) ts
  let (_, ts) ← symbol closing ts
  return (items.1, ts)

/-- A pair of parts with a colon between them. -/
def colonPair (first : Parser α) (second : Parser β) : Parser (α × β) := fun ts => do
  let (a, ts) ← first ts
  let (_, ts) ← symbol .colon ts
  let (b, ts) ← second ts
  return ((a, b), ts)

/-! ## Expressions

Each level takes the reader of whole expressions as a parameter. -/

section

variable (expr : Parser Expr)

/-- A name, or the call of a function. -/
def nameOrCall (target : Option Expr) (alone : String → Expr) : Parser Expr := fun ts => do
  let (s, ts) ← accept nameKind ts
  match ← accept? (symbolKind .openParen) ts with
  | none => return (alone s, ts)
  | some (_, ts) =>
    let (args, ts) ← separated expr .closeParen ts
    return (.call s target args, ts)

/-- A literal, which must stand for a constant. -/
def literal (l : Option Literal) (rest : Tokens) : Attempt SyntaxFault (Expr × Tokens) := do
  let rest ← advance rest
  match l with
  | some l => return (.literal l, rest)
  | none => .abort

/-- An operand without anything after it. -/
def primary : Parser Expr := fun ts =>
  match ts with
  | .token (.literal l) _ _ _ rest => literal l rest
  | .token (.name _) _ _ _ _ => nameOrCall expr none .name ts
  | .token (.symbol .dot) _ _ _ rest => do nameOrCall expr none .name (← advance rest)
  | .token (.symbol .openParen) _ _ _ rest => do
    let (e, ts) ← expr (← advance rest)
    let (_, ts) ← symbol .closeParen ts
    return (e, ts)
  | .token (.symbol .openBracket) _ _ _ rest => do
    let (items, ts) ← separated expr .closeBracket (← advance rest)
    return (.list items, ts)
  | .token (.symbol .openBrace) _ _ _ rest => do
    let (entries, ts) ← separated (colonPair expr expr) .closeBrace (← advance rest)
    return (.map entries, ts)
  | ts => unexpected ts

/-- One access after an operand. -/
def access (target : Expr) (ts : Tokens) : Attempt SyntaxFault (Option (Expr × Tokens)) :=
  match ts with
  | .token (.symbol .dot) _ _ _ rest => do
    some <$> nameOrCall expr (some target) (.member target) (← advance rest)
  | .token (.symbol .openBracket) _ _ _ rest => do
    let (e, ts) ← expr (← advance rest)
    let (_, ts) ← symbol .closeBracket ts
    return some (.index target e, ts)
  | .token (.symbol .openBrace) _ _ _ rest => do
    let (entries, ts) ← separated (colonPair (accept nameKind) expr) .closeBrace (← advance rest)
    return some (.fields target entries, ts)
  | _ => .ok none

/-- An operand with accesses after it. -/
def operand : Parser Expr := fun ts => do
  let (first, ts) ← primary expr ts
  grow (access expr) ts.length first ts

/-- An operand with at most one operator before it. -/
def unary : Parser Expr := fun ts => do
  let table : List (Symbol × UnaryOp) :=
    [(.not, .not), (.doubleNot, .doubleNot), (.minus, .minus), (.doubleMinus, .doubleMinus)]
  match ← accept? (operatorKind table) ts with
  | none => operand expr ts
  | some (op, ts) =>
    let (e, ts) ← operand expr ts
    return (.unary op e, ts)

/-- Products and quotients. -/
def product : Parser Expr :=
  leftChain
    [(.times, fun a b => .arithmetic a .multiply b), (.divide, fun a b => .arithmetic a .divide b),
      (.modulo, fun a b => .arithmetic a .modulus b)]
    (unary expr)

/-- Sums and differences. -/
def sum : Parser Expr :=
  leftChain
    [(.plus, fun a b => .arithmetic a .add b), (.minus, fun a b => .arithmetic a .subtract b)]
    (product expr)

/-- At most one comparison. -/
def relation : Parser Expr := fun ts => do
  let (left, ts) ← sum expr ts
  let table : List (Symbol × RelationOp) :=
    [(.less, .less), (.lessEq, .lessEq), (.greater, .greater), (.greaterEq, .greaterEq),
      (.equal, .equal), (.notEqual, .notEqual), (.isIn, .isIn)]
  match ← accept? (operatorKind table) ts with
  | none => return (left, ts)
  | some (op, ts) =>
    let (right, ts) ← sum expr ts
    return (.relation left op right, ts)

/-- Alternatives of conjunctions. -/
def disjunction : Parser Expr := leftChain [(.or, .or)] (leftChain [(.and, .and)] (relation expr))

/-- A conditional, or what it is made of.  Only its last part may be another conditional. -/
def conditional : Parser Expr := fun ts => do
  let (condition, ts) ← disjunction expr ts
  match ← accept? (symbolKind .question) ts with
  | none => return (condition, ts)
  | some (_, ts) =>
    let (whenTrue, ts) ← disjunction expr ts
    let (_, ts) ← symbol .colon ts
    let (whenFalse, ts) ← expr ts
    return (.conditional condition whenTrue whenFalse, ts)

end

/-- An expression nested less deep than `depth`. -/
def expression : (depth : Nat) → Parser Expr
  | 0 => unexpected
  | depth + 1 => conditional (expression depth)

end Parser

namespace Expr

/-- The expression that a script is.  A nested expression has a token before it, so that their number
bounds the depth. -/
def parse (script : String) : Attempt SyntaxFault Expr := do
  let ts ← Parser.advance (Tokens.ofText script)
  let (e, rest) ← Parser.expression (ts.length + 1) ts
  match rest with
  | .finish _ => return e
  | rest => Parser.unexpected rest

end Expr

end Lorawan.Script
