import PinBudget.Analysis.Project

/-!
Reports as plain lines of text.
-/
namespace PinBudget

namespace Report

/-- The line that sets off a heading. -/
def rule : String := String.ofList (List.replicate 60 '=')

private def performanceLines (performance : PerformanceEstimate) : List String :=
  [s!"  Rating:     {performance.rating.name}"] ++
    performance.bottlenecks.map (fun text => s!"  Bottleneck: {text}") ++
    performance.optimizations.map fun text => s!"  Suggestion: {text}"

private def bytecodeLines (check : BytecodeCheck) : List String :=
  match check.sizeBytes, check.flashPercent with
  | some size, some percent =>
    let shown := generalText percent
    [s!"  Bytecode:   {size} bytes ({shown}% of flash)"]
  | _, _ => []

def estimateLines (estimate : ResourceEstimate) : Except Fault (List String) := do
  let ram ← estimate.ramBytes.shown
  let execution := generalText estimate.executionMs
  let cpu := generalText estimate.cpuPercent
  let power := generalText estimate.powerMa
  let response := generalText estimate.responseMs
  return [s!"  RAM:        {ram} bytes", s!"  Execution:  {execution} ms",
    s!"  CPU:        {cpu} %", s!"  Power:      {power} mA", s!"  Response:   {response} ms"] ++
    estimate.performance.toList.flatMap performanceLines ++
    estimate.bytecode.toList.flatMap bytecodeLines

private def recordLine (pin : Pin) (record : Record) : String :=
  let role := match record.function with
    | some function => if function.isEmpty then "" else s!" {function}"
    | none => ""
  s!"  {pin.name} ({pin.register}): {record.kind.name}{role}{record.info} " ++
    s!"(line {record.line})"

private def pinLines (analysis : FileAnalysis) : List String :=
  match analysis.allocation.byPin with
  | [] => if analysis.loadError.isNone then ["No pins used"] else []
  | held => "Pin usage:" :: held.map fun (pin, record) => recordLine pin record

/-- A heading with a mark before each of its items; no items, no heading. -/
private def marked (heading mark : String) (items : List String) : List String :=
  if items.isEmpty then [] else heading :: items.map fun item => s!"  [{mark}] {item}"

private def verdictLine (valid : Bool) : String :=
  if valid then "Result: VALID" else "Result: INVALID"

def file (analysis : FileAnalysis) : Except Fault (List String) := do
  let resources ← match analysis.estimate with
    | some estimate => (estimateLines estimate).map ("Resources:" :: ·)
    | none => pure []
  return [rule, s!"File: {analysis.sourceId}", rule] ++ pinLines analysis ++ resources ++
    marked "Warnings:" "WARNING" analysis.warnings ++ marked "Errors:" "ERROR" analysis.errors ++
    [verdictLine analysis.valid]

private def totalLines (estimate : ResourceEstimate) : Except Fault (List String) := do
  let resources ← estimateLines estimate
  return "Project resources:" :: resources ++ estimate.findings.map fun finding =>
    s!"  [{Text.upperString finding.severity.name}] {finding.message}"

/-- The report on a project: its sources, each with an empty line behind it, and the summary. -/
def project (project : Project) : Except Fault (List String) := do
  let files ← project.files.mapM file
  let totals ← match project.estimate with
    | some estimate => totalLines estimate
    | none => pure []
  let count := project.files.length
  let failed := project.failedFiles.length
  let conflicts :=
    if project.conflicts.isEmpty then ["No cross-file conflicts"]
    else marked "Cross-file conflicts:" "CONFLICT" (project.conflicts.map Conflict.message)
  return files.flatMap (· ++ [""]) ++
    [rule, "Project summary", rule, s!"Files analyzed: {count}", s!"Successful: {count - failed}",
      s!"Failed: {failed}"] ++
    conflicts ++ totals ++ [verdictLine project.valid]

end Report

end PinBudget
