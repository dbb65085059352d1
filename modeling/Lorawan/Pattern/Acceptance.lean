import Lorawan.Pattern.Footprint
import Lorawan.Pattern.Meaning
import Lorawan.Pattern.Nesting
import Lorawan.Pattern.Reader

/-!
# Which texts are patterns

A text is a pattern if it can be read, is not nested too deep, means something under its flags, and is not
too large.  These are asked in this order, and the first answer of no is the one that is given.
-/

namespace Lorawan.Pattern

/-- Why a text is no pattern. -/
inductive Refusal where
  | flawed (f : Flaw)
  | tooLarge
  deriving DecidableEq, Repr

/-- The wording of a refusal. -/
def Refusal.message (pattern : String) : Refusal → String
  | flawed f => f.message pattern
  | tooLarge => s!"Compiled regex exceeds size limit of {sizeLimit} bytes."

/-- What a text means as a pattern, however large that is. -/
def meaningOf (s : String) : Reading Pattern := do
  let t ← Term.parse s
  t.checkNesting 0
  let (p, _) ← t.meaning {}
  return p

/-- The pattern that a text stands for. -/
def parse (s : String) : Except Refusal Pattern :=
  match meaningOf s with
  | .error f => .error (.flawed f)
  | .ok p => if p.isTooLarge then .error .tooLarge else .ok p

end Lorawan.Pattern
