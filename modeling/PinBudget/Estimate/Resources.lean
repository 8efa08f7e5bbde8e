import PinBudget.Estimate.Bytecode
import PinBudget.Estimate.Firmware
import PinBudget.Estimate.Memory
import PinBudget.Estimate.Performance
import PinBudget.Estimate.Timing

/-!
Resource estimates: everything that one source needs, and the totals over several sources.
-/
namespace PinBudget

/-- The resources that a source or a project needs. A project has totals only. -/
structure ResourceEstimate where
  sourceId : String
  ramBytes : Number := .int 0
  executionMs : Float := 0.0
  cpuPercent : Float := 0.0
  powerMa : Float := 0.0
  responseMs : Float := 0.0
  findings : List Finding := []
  memory : Option MemoryEstimate := none
  timing : Option TimingEstimate := none
  performance : Option PerformanceEstimate := none
  compatibility : List Finding := []
  bytecode : Option BytecodeCheck := none

namespace ResourceEstimate

def errors (estimate : ResourceEstimate) : List Finding :=
  Finding.errors estimate.findings

def warnings (estimate : ResourceEstimate) : List Finding :=
  Finding.warnings estimate.findings

def ok (estimate : ResourceEstimate) : Bool :=
  estimate.errors.isEmpty

/-- The estimate for a source, with what was found in it and the pins that it holds. -/
def ofSource (config : Config) (text sourceId : String) (extraction : Extraction)
    (held : List HeldPin) (responseLimit : Option Number) (bytecode : Option (List UInt8)) :
    Except Fault ResourceEstimate := do
  let memory ← MemoryEstimate.ofSource config text sourceId
  let timing ←
    TimingEstimate.ofSource config text sourceId extraction.methodCalls responseLimit
  let performance ← PerformanceEstimate.ofExtraction config extraction
  let setups ← extraction.events.mapM PeripheralSetup.ofEvent
  let compatibility ← Firmware.check config held setups sourceId
  let check ← match bytecode with
    | some data => (BytecodeCheck.ofBytes config data sourceId).map some
    | none => pure none
  let bytecodeNotes := match check with
    | some check => check.findings
    | none => []
  return {
    sourceId := sourceId
    ramBytes := memory.ramBytes
    executionMs := timing.executionMs
    cpuPercent := performance.cpuPercent
    powerMa := performance.powerMa
    responseMs := performance.responseMs
    findings := memory.findings ++ timing.findings ++ compatibility ++ performance.findings ++
      bytecodeNotes
    memory := some memory
    timing := some timing
    performance := some performance
    compatibility := compatibility
    bytecode := check }

def projectRamFindings (config : Config) (sourceId : String) (ram : Number) :
    Except Fault (List Finding) := do
  let finding (message : String) : List Finding :=
    [{ severity := .warning
       category := .memory
       message := message
       sourceId := sourceId }]
  let limit ← Config.number (← config.ramErrorBytes)
  if limit.less ram then
    let used ← ram.shown
    let allowed ← Numeral.shown (← limit.truncate)
    return finding s!"Project RAM usage ({used} bytes) exceeds safe limit ({allowed} bytes)"
  else if (← Config.number (← config.ramWarningBytes)).less ram then
    let used ← ram.shown
    return finding s!"High project RAM usage: {used} bytes"
  else return []

def projectTimeFindings (config : Config) (sourceId : String) (execution : Float) :
    Except Fault (List Finding) := do
  if ← Config.above (.float execution) (config.timing .executionLimit) then
    let shown := generalText execution
    return [{
      severity := .warning
      category := .timing
      message := s!"High project execution time: {shown}ms"
      sourceId := sourceId }]
  else return []

private def sumOf (field : ResourceEstimate → Float) (estimates : List ResourceEstimate) : Float :=
  estimates.foldl (fun sum estimate => sum + field estimate) 0.0

/-- The totals over several estimates, compared again with the limits on memory and running time.
All findings are warnings: each source fits on its own, and the totals assume that all are loaded at
once. -/
def combine (config : Config) (sourceId : String) (estimates : List ResourceEstimate) :
    Except Fault ResourceEstimate := do
  let ram ← Number.sum (.int 0) (estimates.map ramBytes)
  let execution := sumOf executionMs estimates
  let ramNotes ← projectRamFindings config sourceId ram
  let timeNotes ← projectTimeFindings config sourceId execution
  return {
    sourceId := sourceId
    ramBytes := ram
    executionMs := execution
    cpuPercent := roundToPlaces 2 (sumOf cpuPercent estimates)
    powerMa := roundToPlaces 2 (sumOf powerMa estimates)
    responseMs := roundToPlaces 2 (sumOf responseMs estimates)
    findings := ramNotes ++ timeNotes }

end ResourceEstimate

end PinBudget
