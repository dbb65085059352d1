/-!
# Validation reports

What is wrong with a configured value, field by field.  A report lists its faults in the order of the
field names and is written as `field: message`, joined by commas.
-/

namespace Lorawan

/-- One field that does not meet its rule. -/
structure FieldFault where
  field : String
  message : String
  deriving DecidableEq, Repr

/-- A fault as text. -/
def FieldFault.text (f : FieldFault) : String := f.field ++ ": " ++ f.message

/-- The faults of one value. -/
structure FaultReport where
  faults : List FieldFault
  deriving DecidableEq, Repr

namespace FaultReport

/-- The report of these faults, in the order of the field names. -/
def ofFaults (fs : List FieldFault) : FaultReport := ⟨fs.mergeSort fun a b => a.field ≤ b.field⟩

/-- A report as text. -/
def text (r : FaultReport) : String := ", ".intercalate (r.faults.map FieldFault.text)

end FaultReport

end Lorawan
