import PinBudget.Allocation.Registry
import PinBudget.Estimate.Resources

/-!
The analysis of one source: what it constructs, which pins it gets and what it needs.
-/
namespace PinBudget

/-- The result for one source. A source that cannot be read has only its load error. -/
structure FileAnalysis where
  sourceId : String
  extraction : Option Extraction := none
  allocation : Allocation := {}
  estimate : Option ResourceEstimate := none
  loadError : Option Issue := none

structure AnalysisOptions where
  config : Config := Config.standard
  estimate : Bool := true
  responseLimit : Option Number := none

namespace FileAnalysis

variable (analysis : FileAnalysis)

/-- The load error, then the errors of the allocation, then those of the estimate. -/
def errors : List String :=
  analysis.loadError.toList.map Issue.message ++ analysis.allocation.errors.map Issue.message ++
    analysis.estimate.toList.flatMap fun estimate => estimate.errors.map Finding.message

/-- The warnings of the allocation, then those of the estimate. -/
def warnings : List String :=
  analysis.allocation.warnings ++
    analysis.estimate.toList.flatMap fun estimate => estimate.warnings.map Finding.message

/-- Whether the source was read, got all its pins and fits. -/
def valid : Bool :=
  analysis.loadError.isNone && analysis.allocation.ok && analysis.estimate.all ResourceEstimate.ok

def unreadable (sourceId message : String) : FileAnalysis :=
  { sourceId := sourceId
    loadError := some
      { kind := .fileNotFound, message := message, sourceId := sourceId, line := none } }

/-- The result for a source whose pins are allocated. -/
def ofAllocation (options : AnalysisOptions) (text : String) (extraction : Extraction)
    (allocation : Allocation) (bytecode : Option (List UInt8)) : Except Fault FileAnalysis := do
  let estimate ←
    if options.estimate then
      (ResourceEstimate.ofSource options.config text extraction.sourceId extraction
        (allocation.pinMap.map HeldPin.ofEntry) options.responseLimit bytecode).map some
    else pure none
  return {
    sourceId := extraction.sourceId
    extraction := some extraction
    allocation := allocation
    estimate := estimate }

/-- Analyzes a source with a registry, which other sources may share. A fault leaves the registry
in the state that it reached. -/
def ofSourceIn (registry : Registry) (options : AnalysisOptions) (text sourceId : String)
    (bytecode : Option (List UInt8)) : Registry × Except Fault FileAnalysis :=
  match extract text sourceId with
  | .error fault => (registry, .error fault)
  | .ok extraction =>
    let reached := registry.processAll extraction.events
    (reached.registry, match reached.fault with
      | some fault => .error fault
      | none => ofAllocation options text extraction reached.registry.result bytecode)

/-- Analyzes a source on its own. -/
def ofSource (options : AnalysisOptions) (text sourceId : String)
    (bytecode : Option (List UInt8)) : Except Fault FileAnalysis :=
  (ofSourceIn {} options text sourceId bytecode).2

end FileAnalysis

end PinBudget
