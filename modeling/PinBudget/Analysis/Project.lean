import PinBudget.Analysis.FileAnalysis

/-!
Projects: several sources as one program. The first source to claim a pin owns it, and every later
source with the same pin is in conflict with that owner.
-/
namespace PinBudget

/-- A pin that two sources hold; the owner came first. -/
structure Conflict where
  pin : Pin
  owner : Record
  claimant : Record
  deriving DecidableEq, Repr

namespace Conflict

variable (conflict : Conflict)

/-- A record's kind, source and line. -/
private def place (record : Record) : String :=
  s!"{record.kind.name} in {record.sourceId}:{record.line}"

def message : String :=
  s!"Pin {conflict.pin.name} used by {place conflict.owner} and by {place conflict.claimant}"

def issue : Issue :=
  { kind := .crossFileConflict
    message := conflict.message
    sourceId := conflict.claimant.sourceId
    line := some conflict.claimant.line }

/-- The conflicts of held pins, given the owners of the pins before them. The first record of a pin
becomes its owner; a source is never in conflict with itself. -/
def amongFrom (owners : Dict Pin Record) : List (Pin × Record) → List Conflict
  | [] => []
  | (pin, record) :: rest =>
    match owners.get? pin with
    | none => amongFrom (owners.set pin record) rest
    | some owner =>
      if owner.sourceId == record.sourceId then amongFrom owners rest
      else ⟨pin, owner, record⟩ :: amongFrom owners rest

/-- The conflicts of allocations, in the order in which the later claims come. -/
def among (allocations : List Allocation) : List Conflict :=
  amongFrom [] (allocations.flatMap Allocation.pinMap)

end Conflict

/-- Sources analyzed one by one, and what exists only between them. -/
structure Project where
  files : List FileAnalysis
  conflicts : List Conflict
  estimate : Option ResourceEstimate

namespace Project

variable (project : Project)

def valid : Bool :=
  project.files.all FileAnalysis.valid && project.conflicts.isEmpty

/-- The errors of the sources, then the conflicts. -/
def errors : List String :=
  project.files.flatMap FileAnalysis.errors ++ project.conflicts.map Conflict.message

/-- The warnings of the sources, then those on the totals. -/
def warnings : List String :=
  project.files.flatMap FileAnalysis.warnings ++
    project.estimate.toList.flatMap fun estimate => estimate.warnings.map Finding.message

def failedFiles : List String :=
  (project.files.filter fun file => !file.valid).map FileAnalysis.sourceId

def totalsId : String := "<project>"

/-- The project of sources that are already analyzed. Totals exist where an estimate does. -/
def merge (config : Config) (files : List FileAnalysis) : Except Fault Project := do
  let estimates := files.filterMap FileAnalysis.estimate
  let total ←
    if estimates.isEmpty then pure none
    else (ResourceEstimate.combine config totalsId estimates).map some
  return {
    files := files
    conflicts := Conflict.among (files.map FileAnalysis.allocation)
    estimate := total }

end Project

end PinBudget
