import PinBudget.Analysis.Project
import PinBudget.Json.Basic

/-!
Results as JSON documents. The order of the fields is the order in which they are printed.
-/
namespace PinBudget

def Issue.document (issue : Issue) : Json :=
  .obj [("kind", .str issue.kind.name), ("message", .str issue.message),
    ("source_id", .str issue.sourceId), ("line", .ofOption .int issue.line)]

def Finding.document (finding : Finding) : Json :=
  .obj [("severity", .str finding.severity.name), ("category", .str finding.category.name),
    ("message", .str finding.message), ("source_id", .str finding.sourceId),
    ("line", .ofOption .int finding.line)]

/-- The pin's description without the blanks and parentheses around it. -/
private def bareInfo (info : String) : String :=
  let framed (c : Char) : Bool := c == ' ' || c == '(' || c == ')'
  String.ofList ((info.toList.dropWhile framed).reverse.dropWhile framed).reverse

def Record.document (record : Record) : Json :=
  .obj [("pin", .str record.pin.name), ("register", .str record.pin.register),
    ("peripheral", .str record.kind.name), ("function", .ofOption .str record.function),
    ("hardware_function", .ofOption .str record.hardwareFunction),
    ("unit", .ofOption .int record.unit), ("variable", .ofOption .str record.holder),
    ("source_id", .str record.sourceId), ("line", .int record.line),
    ("info", .str (bareInfo record.info))]

/-- An allocation by its fields; the records stand by claim and by pin. -/
def Allocation.document (allocation : Allocation) : Json :=
  .obj [("ok", .bool allocation.ok), ("accepted", .arr (allocation.accepted.map Record.document)),
    ("errors", .arr (allocation.errors.map Issue.document)),
    ("warnings", .strs allocation.warnings),
    ("pin_map",
      .obj (allocation.byPin.map fun (pin, record) => (pin.name, record.document)))]

/-- The shape of memory use. -/
private def memoryDocument (memory : MemoryEstimate) : Json :=
  .obj [("variable_count", .nat memory.variableCount),
    ("string_literals", .nat memory.texts.length), ("string_bytes", .number memory.textBytes),
    ("array_lines", .arr (memory.arrayLines.map .nat)),
    ("hash_lines", .arr (memory.hashLines.map .nat)),
    ("object_instantiations", .arr (memory.objects.map fun (line, name) =>
      .obj [("line", .nat line), ("class", .str name)]))]

/-- The shape of the running time. -/
private def timingDocument (timing : TimingEstimate) : Json :=
  .obj [("delay_calls", .arr (timing.delays.map fun delay =>
      .obj [("line", .nat delay.line), ("call", .str delay.call),
        ("duration_ms", .float delay.milliseconds)])),
    ("timer_usage", .arr (timing.timers.map fun use =>
      .obj [("line", .nat use.line), ("timer", .nat use.timer), ("reserved", .bool use.reserved)])),
    ("blocking_operations", .arr (timing.blocking.map fun blocking =>
      .obj [("line", .nat blocking.line), ("operation", .str blocking.operation)])),
    ("loop_lines", .arr (timing.loopLines.map .nat)),
    ("max_delay_ms", .float (TimingEstimate.longestDelay timing.delays))]

def countsDocument (counts : Dict Kind Nat) : Json :=
  .obj (counts.map fun (kind, count) => (kind.name, .nat count))

private def performanceDocument (performance : PerformanceEstimate) : Json :=
  .obj [("rating", .str performance.rating.name),
    ("instance_counts", countsDocument performance.instanceCounts),
    ("usage_counts", countsDocument performance.usageCounts),
    ("bottlenecks", .strs performance.bottlenecks),
    ("optimizations", .strs performance.optimizations)]

private def bytecodeDocument (check : BytecodeCheck) : Json :=
  .obj [("size_bytes", .ofOption .nat check.sizeBytes),
    ("flash_pct", .ofOption .float check.flashPercent)]

/-- A field that is there only if its value is. -/
private def optional {α : Type} (name : String) (write : α → Json) (value : Option α) :
    List (String × Json) :=
  value.toList.map fun value => (name, write value)

def ResourceEstimate.document (estimate : ResourceEstimate) : Json :=
  .obj ([("source_id", .str estimate.sourceId), ("estimated_ram_bytes", .number estimate.ramBytes),
    ("estimated_execution_ms", .float estimate.executionMs),
    ("estimated_cpu_pct", .float estimate.cpuPercent),
    ("estimated_power_ma", .float estimate.powerMa),
    ("estimated_response_ms", .float estimate.responseMs),
    ("findings", .arr (estimate.findings.map Finding.document))] ++
    optional "memory" memoryDocument estimate.memory ++
    optional "timing" timingDocument estimate.timing ++
    optional "performance" performanceDocument estimate.performance ++
    optional "bytecode" bytecodeDocument estimate.bytecode)

def FileAnalysis.document (analysis : FileAnalysis) : Json :=
  .obj [("source_id", .str analysis.sourceId), ("valid", .bool analysis.valid),
    ("errors", .strs analysis.errors), ("warnings", .strs analysis.warnings),
    ("load_error", .ofOption Issue.document analysis.loadError),
    ("allocation", analysis.allocation.document),
    ("estimate", .ofOption ResourceEstimate.document analysis.estimate)]

/-- A conflict by its fields; the owner comes first. -/
def Conflict.document (conflict : Conflict) : Json :=
  let both (field : Record → Json) : Json := .arr [field conflict.owner, field conflict.claimant]
  .obj [("pin", .str conflict.pin.name), ("source_ids", both fun record => .str record.sourceId),
    ("kinds", both fun record => .str record.kind.name),
    ("lines", both fun record => .int record.line), ("message", .str conflict.message)]

def Project.document (project : Project) : Json :=
  .obj [("valid", .bool project.valid), ("files", .arr (project.files.map FileAnalysis.document)),
    ("conflicts", .arr (project.conflicts.map Conflict.document)),
    ("failed_files", .strs project.failedFiles),
    ("estimate", .ofOption ResourceEstimate.document project.estimate)]

end PinBudget
