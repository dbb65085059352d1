import Lorawan.Script.Library

/-!
# Evaluation of scripts

The value of an expression in a scope.  Operands are evaluated from left to right; of the two operators on
truth values and the conditional only what decides is evaluated.
-/

namespace Lorawan.Script

/-- The value of a member of a value: an entry of a map, or the function of that name. -/
def memberOf (v : Value) (name : String) : Evaluation Value :=
  let entry :=
    match v with
    | .map entries => entries.lookup (.text name)
    | _ => none
  match entry with
  | some e => .ok e
  | none => if (function? name).isSome then .ok (.function name v) else .fail (.noSuchKey name)

/-- The entry of a map under a key, where an integer also finds its equal of the other type. -/
def entryAt (entries : List (Key × Value)) (key : Key) : Value :=
  let other? : Option Key :=
    match key with
    | .int n => if n.toInt ≥ 0 then some (.uint (UInt64.ofNat n.toInt.toNat)) else none
    | .uint n => if (n.toNat : Int) ≤ Int64.maxValue.toInt then some (.int (Int64.ofNat n.toNat)) else none
    | _ => none
  match entries.lookup key with
  | some v => v
  | none => ((other?.bind fun k => entries.lookup k).getD .null)

/-- The character that takes the byte at a place of a string alone, or null. -/
def byteOf (s : String) (place : Int64) : Value :=
  match (Utf8.encode s)[place.toInt.toNat]? with
  | some b =>
    if place.toInt ≥ 0 ∧ b < 0x80 then .text (Char.ofNat b.toNat).toString else .null
  | none => .null

/-- The part of a value at an index. -/
def indexed (target index : Value) : Evaluation Value :=
  match target, index with
  | .list items, .int n => .ok (if n.toInt < 0 then .null else items.getD n.toInt.toNat .null)
  | .text s, .int n => .ok (byteOf s n)
  | .map entries, i =>
    match Key.ofValue? i with
    | some k => .ok (entryAt entries k)
    | none => .fail (.mapIndex i)
  | .list _, i => .fail (.listIndex i)
  | v, i => .fail (.index v i)

namespace Expr

mutual

/-- The value of an expression. -/
def eval : Expr → Scope → Evaluation Value
  | literal l, _ => .ok (.ofLiteral l)
  | name s, scope => .ofOption (.undeclared s) (scope.lookup s)
  | list items, scope => do return .list (← evalAll items scope)
  | map entries, scope => do return .map (← evalEntries [] entries scope)
  | arithmetic a op b, scope => do
    let left ← eval a scope
    let right ← eval b scope
    op.apply left right
  | relation a op b, scope => do
    let left ← eval a scope
    let right ← eval b scope
    return .bool (← op.apply left right)
  | unary op a, scope => do op.apply (← eval a scope)
  | or a b, scope => do
    let left ← eval a scope
    if left.isTruthy then return left else eval b scope
  | and a b, scope => do
    let left ← eval a scope
    if left.isTruthy then return .bool (← eval b scope).isTruthy else return .bool false
  | conditional c a b, scope => do
    if (← eval c scope).isTruthy then eval a scope else eval b scope
  | member a s, scope => do memberOf (← eval a scope) s
  | index a i, scope => do
    let target ← eval a scope
    let position ← eval i scope
    indexed target position
  | fields a entries, scope => do
    let _ ← eval a scope
    .fail (.fieldsConstruction entries)
  | call f target args, scope =>
    match function? f with
    | none => .fail (.undeclared f)
    | some function => do
      let receiver ← evalOption target scope
      function ⟨receiver, arguments args, scope⟩

/-- The value of an expression that may be missing. -/
def evalOption : Option Expr → Scope → Evaluation (Option Value)
  | none, _ => .ok none
  | some e, scope => do return some (← eval e scope)

/-- The values of some expressions. -/
def evalAll : List Expr → Scope → Evaluation (List Value)
  | [], _ => .ok []
  | e :: rest, scope => do
    let v ← eval e scope
    let vs ← evalAll rest scope
    return v :: vs

/-- The entries of a map; of entries with one key the last counts. -/
def evalEntries (read : List (Key × Value)) :
    List (Expr × Expr) → Scope → Evaluation (List (Key × Value))
  | [], _ => .ok read
  | (k, e) :: rest, scope => do
    let keyValue ← eval k scope
    let key ← Attempt.ofOption (.keyType keyValue) (Key.ofValue? keyValue)
    let v ← eval e scope
    evalEntries (insertEntry read key v) rest scope

/-- Expressions as arguments that are yet to be evaluated. -/
def arguments : List Expr → List Argument
  | [] => []
  | e :: rest => ⟨e, eval e⟩ :: arguments rest

end

end Expr

end Lorawan.Script
