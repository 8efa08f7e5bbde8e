/-!
Findings: observations of the estimates that crossed a threshold.
-/
namespace PinBudget

inductive Severity where
  | warning
  | error
  deriving DecidableEq, Repr

def Severity.name : Severity → String
  | warning => "warning"
  | error => "error"

/-- The estimate that a finding comes from. -/
inductive Category where
  | memory
  | timing
  | compatibility
  | performance
  | bytecode
  deriving DecidableEq, Repr

def Category.name : Category → String
  | memory => "memory"
  | timing => "timing"
  | compatibility => "compatibility"
  | performance => "performance"
  | bytecode => "bytecode"

/-- One observation that crossed a threshold. -/
structure Finding where
  severity : Severity
  category : Category
  message : String
  sourceId : String
  line : Option Int := none
  deriving DecidableEq, Repr

namespace Finding

def isError (finding : Finding) : Bool :=
  finding.severity == .error

/-- The findings that make their source invalid. -/
def errors (findings : List Finding) : List Finding :=
  findings.filter isError

/-- The findings that are only advice. -/
def warnings (findings : List Finding) : List Finding :=
  findings.filter fun finding => !finding.isError

end Finding

end PinBudget
