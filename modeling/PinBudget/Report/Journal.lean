import PinBudget.Analysis.Loading

/-!
The journal of a run: what was read, found, granted and estimated, in the order in which it happens.
Every entry follows from the data of the run, so the analysis itself keeps no journal.
-/
namespace PinBudget

/-- How much an entry matters. -/
inductive JournalLevel where
  | debug
  | info
  | warning
  deriving DecidableEq, Repr

namespace JournalLevel

def name : JournalLevel → String
  | debug => "DEBUG"
  | info => "INFO"
  | warning => "WARNING"

/-- How often more detail must be asked for before the level shows. -/
def verbosity : JournalLevel → Nat
  | warning => 0
  | info => 1
  | debug => 2

end JournalLevel

/-- One entry: its level, the part of the analyzer that it comes from, and its message. -/
structure JournalEntry where
  level : JournalLevel
  origin : String
  message : String
  deriving DecidableEq, Repr

namespace JournalEntry

def line (entry : JournalEntry) : String :=
  s!"{entry.level.name} pinguard.{entry.origin}: {entry.message}\n"

/-- The lines of the entries that a verbosity shows. -/
def shown (verbosity : Nat) (entries : List JournalEntry) : String :=
  String.join ((entries.filter fun entry => entry.level.verbosity ≤ verbosity).map line)

end JournalEntry

namespace Journal

private def debug (origin message : String) : JournalEntry :=
  ⟨.debug, origin, message⟩

/-- The entry on overrides that were read from a file. -/
def overridesLoaded (path : Path) : JournalEntry :=
  ⟨.info, "config", s!"Loaded analyzer config overrides from {path.text}"⟩

def loadFailed (failure : LoadFailure) : JournalEntry :=
  ⟨.warning, "analyzer", s!"{failure.sourceId}: {failure.message} ({failure.cause.message})"⟩

private def bytecodeFound (sourceId : String) (path : Path) (bytes : List UInt8) : JournalEntry :=
  debug "analyzer" s!"{sourceId}: checking bytecode {path.text} ({bytes.length} bytes)"

/-- The entry on a construction; none if a value is too long to be written. -/
private def eventFound? (event : Event) : Option JournalEntry :=
  match (Value.tuple event.positional).shown, (Value.mapping event.named).shown with
  | .ok positional, .ok named =>
    some (debug "extract.extractor"
      s!"{event.sourceId}:{event.line}: {event.kind.name}.new {positional} {named}")
  | _, _ => none

private def extracted (extraction : Extraction) : JournalEntry :=
  debug "extract.extractor"
    (s!"{extraction.sourceId}: {extraction.events.length} peripheral constructions, " ++
      s!"{extraction.methodCalls.length} method calls")

/-- The entries on one event: the default pins that it takes, then its granted claims. -/
private def allocated (event : Event) (before after : Registry) : List JournalEntry :=
  let place := s!"{event.sourceId}:{event.line}"
  let defaults := match event.uartDefaultPins? before.validators with
    | some (unit, pins) =>
      [s!"{place}: UART{unit} default pins TX={pins.tx.name} RX={pins.rx.name}"]
    | none => []
  let granted := (after.accepted.drop before.accepted.length).map fun record =>
    s!"{record.sourceId}:{record.line}: {record.pin.name} -> {record.kind.name}{record.info}"
  (defaults ++ granted).map (debug "registry.engine")

/-- The entries on events in order, up to the first fault. -/
private def allocations (registry : Registry) : List Event → List JournalEntry
  | [] => []
  | event :: rest =>
    let reached := registry.process event
    let entries := allocated event registry reached.registry
    match reached.fault with
    | some _ => entries
    | none => entries ++ allocations reached.registry rest

/-- The entry on an estimate; none if the memory is no number of bytes. -/
private def estimated? (estimate : ResourceEstimate) : Option JournalEntry :=
  match estimate.ramBytes.truncate with
  | .error _ => none
  | .ok ram =>
    let time := fixedText 1 estimate.executionMs
    let cpu := fixedText 1 estimate.cpuPercent
    let power := fixedText 1 estimate.powerMa
    some (debug "estimate.engine"
      (s!"{estimate.sourceId}: ram={ram}B time={time}ms cpu={cpu}% power={power}mA " ++
        s!"({estimate.findings.length} findings)"))

private def analyzed (analysis : FileAnalysis) : List JournalEntry :=
  let events := (analysis.extraction.toList.flatMap Extraction.events).length
  analysis.estimate.toList.filterMap estimated? ++
    [⟨.info, "analyzer",
      s!"{analysis.sourceId}: {events} events, {analysis.allocation.pinMap.length} pins, " ++
        s!"{analysis.errors.length} errors, {analysis.warnings.length} warnings"⟩]

/-- The entries on the analysis of a source, up to the fault that stops it. -/
def ofSource (options : AnalysisOptions) (text sourceId : String)
    (bytecode : Option (List UInt8)) : List JournalEntry :=
  let scanned := scanSource text sourceId
  let events := scanned.extraction.events
  let found := events.filterMap eventFound?
  match scanned.fault with
  | some _ => found
  | none =>
    let finished := match FileAnalysis.ofSource options text sourceId bytecode with
      | .ok analysis => analyzed analysis
      | .error _ => []
    found ++ [extracted scanned.extraction] ++ allocations {} events ++ finished

/-- The entries on reading a source and analyzing it. -/
def ofLoad (options : AnalysisOptions) : Load → List JournalEntry
  | .loaded source =>
    let compiled := source.bytecode.toList.map fun (path, bytes) =>
      bytecodeFound source.sourceId path bytes
    compiled ++ ofSource options source.text source.sourceId (source.bytecode.map Prod.snd)
  | .failed failure => [loadFailed failure]
  | .stopped _ => []

def conflictFound (conflict : Conflict) : JournalEntry :=
  debug "project.aggregate"
    (s!"Cross-file conflict on {conflict.pin.name}: {conflict.owner.sourceId} vs " ++
      conflict.claimant.sourceId)

def merged (project : Project) : JournalEntry :=
  ⟨.info, "project.aggregate",
    s!"Project: {project.files.length} files ({project.failedFiles.length} failed), " ++
      s!"{project.conflicts.length} cross-file conflicts"⟩

end Journal

end PinBudget
