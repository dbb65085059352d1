import Lorawan.Text.Property.Age
import Lorawan.Text.Property.Boundary

/-!
# Properties by name

The characters with a property, asked for by name, as in `Greek` or `Lu`, or by a name and a value, as in
`script=Greek`.  Capitals, blanks, hyphens and low lines make no difference in names, and neither does
`is` before a name.
-/

namespace Lorawan.Text

/-- Why a property gives no set of characters. -/
inductive PropertyFault where
  | unknownProperty
  | unknownValue
  deriving DecidableEq, Repr

/-- The properties that have names. -/
inductive Property where
  | binary (p : BinaryProperty)
  | category
  | writingSystem
  | writingSystemUse
  | age
  | grapheme
  | word
  | sentence
  /-- A property of which nothing but the name is known here. -/
  | other
  deriving DecidableEq, Repr

namespace Property

/-- The core of a name: without `is` before it, without what sets its words apart, in small letters. -/
def coreName (name : String) : String :=
  let cs := name.toList
  let marked := (cs.take 2).map Char.toLower = ['i', 's']
  let kept := (if marked then cs.drop 2 else cs).filter fun c =>
    c.toNat < 0x80 && c ≠ ' ' && c ≠ '_' && c ≠ '-'
  let core := String.ofList (kept.map Char.toLower)
  if marked && core = "c" then "isc" else core

/-- The names of the properties with values that are known here. -/
def valued : List (List String × Property) := [
  (["generalcategory", "gc"], .category), (["script", "sc"], .writingSystem),
  (["scriptextensions", "scx"], .writingSystemUse), (["age"], .age),
  (["graphemeclusterbreak", "gcb"], .grapheme), (["wordbreak", "wb"], .word),
  (["sentencebreak", "sb"], .sentence)]

/-- The names of the properties that are not known here. -/
def others : List String := [
  "bc", "bidiclass", "bidimirroringglyph", "bidipairedbracket",
  "bidipairedbrackettype", "blk", "block", "bmg", "bpb", "bpt", "canonicalcombiningclass",
  "casefolding", "ccc", "ce", "cf", "changeswhennfkccasefolded", "cjkaccountingnumeric",
  "cjkcompatibilityvariant", "cjkiicore", "cjkirggsource", "cjkirghsource", "cjkirgjsource",
  "cjkirgkpsource", "cjkirgksource", "cjkirgmsource", "cjkirgssource", "cjkirgtsource",
  "cjkirguksource", "cjkirgusource", "cjkirgvsource", "cjkothernumeric", "cjkprimarynumeric",
  "cjkrsunicode", "compex", "compositionexclusion", "cwkcf", "decompositionmapping",
  "decompositiontype", "dm", "dt", "ea", "eastasianwidth", "equideo",
  "equivalentunifiedideograph", "expandsonnfc", "expandsonnfd", "expandsonnfkc", "expandsonnfkd",
  "fcnfkc", "fcnfkcclosure", "fullcompositionexclusion", "hangulsyllabletype", "hst", "incb",
  "indicconjunctbreak", "indicpositionalcategory", "indicsyllabiccategory", "inpc", "insc", "isc",
  "jamoshortname", "jg", "joininggroup", "joiningtype", "jsn", "jt", "kaccountingnumeric",
  "kcompatibilityvariant", "kehcat", "kehdesc", "kehhg", "kehifao", "kehjsesh", "kehnomirror",
  "kehnorotate", "kiicore", "kirggsource", "kirghsource", "kirgjsource", "kirgkpsource",
  "kirgksource", "kirgmsource", "kirgssource", "kirgtsource", "kirguksource", "kirgusource",
  "kirgvsource", "kothernumeric", "kprimarynumeric", "krsunicode", "lb", "lc", "linebreak",
  "lowercasemapping", "na", "na1", "name", "namealias", "nfcqc", "nfcquickcheck", "nfdqc",
  "nfdquickcheck", "nfkccasefold", "nfkccf", "nfkcqc", "nfkcquickcheck", "nfkcscf",
  "nfkcsimplecasefold", "nfkdqc", "nfkdquickcheck", "nt", "numerictype", "numericvalue", "nv",
  "ocomment", "scf", "sfc", "simplecasefolding", "simplelowercasemapping",
  "simpletitlecasemapping", "simpleuppercasemapping", "slc", "stc", "suc", "tc",
  "titlecasemapping", "uc", "unicode1name", "unicoderadicalstroke", "uppercasemapping", "urs",
  "verticalorientation", "vo", "xonfc", "xonfd", "xonfkc", "xonfkd"]

/-- The property that the core of a name stands for. -/
def named? (core : String) : Option Property :=
  match BinaryProperty.named? core, valued.find? fun row => row.1.contains core with
  | some p, _ => some (.binary p)
  | none, some row => some row.2
  | none, none => if others.contains core then some .other else none

/-- The characters of the categories that the core of a name stands for. -/
def inCategory? (core : String) : Option (Except PropertyFault CharSet) :=
  match core with
  | "any" => some (.ok CharSet.all)
  | "ascii" => some (.ok (CharSet.range '\x00' '\x7f'))
  | "assigned" => some (.ok (Category.members .unassigned).complement)
  | _ =>
    (Category.named? core).map fun cs =>
      if cs.isEmpty then .error .unknownValue else .ok (Category.membersOf cs)

/-- The characters of the writing system that the core of a name stands for, in the one or the other
sense. -/
def inWritingSystem? (sense : WritingSystem → CharSet) (core : String) :
    Option (Except PropertyFault CharSet) :=
  (WritingSystem.named? core).map fun w =>
    if w.listing.isEmpty then .error .unknownValue else .ok (sense w)

/-- The characters that a name stands for: those with a binary property, of a category or of a writing
system, whatever the name is found to be first.  Three short names are always those of categories. -/
def charactersNamed (name : String) : Except PropertyFault CharSet :=
  let core := coreName name
  let property? := if ["cf", "sc", "lc"].contains core then none else named? core
  match property? with
  | some (.binary p) => .ok p.members
  | some _ => .error .unknownProperty
  | none =>
    (inCategory? core <|> inWritingSystem? WritingSystem.members core).getD
      (.error .unknownProperty)

/-- The characters of which a property has some value. -/
def charactersWith (name value : String) : Except PropertyFault CharSet :=
  let core := coreName value
  let listed (s? : Option CharSet) : Except PropertyFault CharSet :=
    match s? with
    | some s => .ok s
    | none => .error .unknownValue
  match named? (coreName name) with
  | none => .error .unknownProperty
  | some .category => (inCategory? core).getD (.error .unknownValue)
  | some .writingSystem =>
    (inWritingSystem? WritingSystem.members core).getD (.error .unknownValue)
  | some .writingSystemUse =>
    (inWritingSystem? WritingSystem.used core).getD (.error .unknownValue)
  | some .age => listed (assignedIn? core)
  | some .grapheme => listed (Boundary.grapheme? core)
  | some .word => listed (Boundary.word? core)
  | some .sentence => listed (Boundary.sentence? core)
  | some (.binary _) | some .other => .error .unknownValue

end Property

end Lorawan.Text
