import PinBudget.CommandLine.Command
import PinBudget.Config.Cache
import PinBudget.Json.Printer
import PinBudget.Report.Capabilities
import PinBudget.Report.Document
import PinBudget.Report.Journal
import PinBudget.Report.Lines

/-!
Carrying out command lines. A run reads from a disk and gives texts and an exit code; only the
configurations that it has read live on.
-/
namespace PinBudget.CommandLine

/-- How a run ends: with an exit code, on a command line that is not carried out, with a fault that
no message is made for, or with a web service to be started. -/
inductive Ending where
  | exit (code : Nat)
  | usage (code : Nat)
  | stopped (fault : Fault)
  | serve (host : String) (port : Int)
  deriving DecidableEq, Repr

/-- What a run has written, and how it ends. -/
structure Outcome where
  output : String := ""
  messages : String := ""
  ending : Ending
  deriving DecidableEq, Repr

def exitValid : Nat := 0

def exitInvalid : Nat := 1

def exitUsage : Nat := 2

def verdictCode (valid : Bool) : Nat :=
  if valid then exitValid else exitInvalid

/-- Lines as a text that ends with a line break. -/
private def printed (lines : List String) : String :=
  "\n".intercalate lines ++ "\n"

def sourceSuffix : String := ".rb"

/-- The sources that one path names: a directory stands for the sources below it, in order. -/
private def sourcesAt (disk : Disk) (path : Path) : Except Fault (List Path) :=
  (disk.isDirectory path).map fun isDirectory =>
    if isDirectory then disk.below path sourceSuffix else [path]

def collectSources (disk : Disk) (paths : List String) : Except Fault (List Path) :=
  (paths.mapM fun text => sourcesAt disk (Path.ofText text)).map List.flatten

/-- Analyses in order up to the first fault, with the journal entries on the way. -/
def analyzeAll (options : AnalysisOptions) :
    List Load → List JournalEntry × Except Fault (List FileAnalysis)
  | [] => ([], .ok [])
  | load :: rest =>
    let entries := Journal.ofLoad options load
    match load.analyze options with
    | .error fault => (entries, .error fault)
    | .ok analysis =>
      let (further, analyses) := analyzeAll options rest
      (entries ++ further, analyses.map (analysis :: ·))

/-- What is printed, as far as it can be printed, and the fault that stopped it. -/
structure Printing where
  text : String := ""
  fault : Option Fault := none

private def printDocument (document : Json) : Printing :=
  match document.indented with
  | .ok text => { text := text ++ "\n" }
  | .error fault => { fault := some fault }

/-- Reports one behind the other. -/
private def printReports : List FileAnalysis → Printing
  | [] => {}
  | analysis :: rest =>
    match Report.file analysis with
    | .error fault => { fault := some fault }
    | .ok lines =>
      let further := printReports rest
      { further with text := printed lines ++ further.text }

/-- The results for single files: one document, or a list of several. -/
private def printFiles (json : Bool) (analyses : List FileAnalysis) : Printing :=
  if json then
    printDocument (match analyses with
      | [analysis] => analysis.document
      | several => .arr (several.map FileAnalysis.document))
  else printReports analyses

private def printProject (json : Bool) (project : Project) : Printing :=
  if json then printDocument project.document
  else
    match Report.project project with
    | .ok lines => { text := printed lines }
    | .error fault => { fault := some fault }

def outcome (printing : Printing) (messages : String) (valid : Bool) : Outcome :=
  { output := printing.text
    messages := messages
    ending := match printing.fault with
      | some fault => .stopped fault
      | none => .exit (verdictCode valid) }

/-- Merges analyses to a project and prints it. -/
def runProject (options : CheckOptions) (verbosity : Nat) (config : Config)
    (entries : List JournalEntry) (analyses : List FileAnalysis) : Outcome :=
  let conflicts := Conflict.among (analyses.map FileAnalysis.allocation)
  let known := entries ++ conflicts.map Journal.conflictFound
  match Project.merge config analyses with
  | .error fault =>
    { messages := JournalEntry.shown verbosity known, ending := .stopped fault }
  | .ok project =>
    outcome (printProject options.json project)
      (JournalEntry.shown verbosity (known ++ [Journal.merged project])) project.valid

/-- Whether the files of a project are all analyzed, whatever happens to one of them. -/
private def isPooled (options : CheckOptions) (sources : List Path) : Bool :=
  options.project && options.workers.any (1 < ·) && 1 < sources.length

/-- How the sources of a `check` are to be analyzed. -/
def CheckOptions.settings (options : CheckOptions) (config : Config) : AnalysisOptions :=
  { config := config
    estimate := options.estimate
    responseLimit := options.responseLimit.map .float }

/-- Analyzes the sources and prints the results. -/
def runSources (disk : Disk) (options : CheckOptions) (verbosity : Nat) (config : Config)
    (before : List JournalEntry) (sources : List Path) : Outcome :=
  let settings := options.settings config
  let loads := sources.map fun path => Load.ofPath disk path path.text options.estimate
  let (reached, result) := analyzeAll settings loads
  let entries := before ++
    if isPooled options sources then loads.flatMap (Journal.ofLoad settings) else reached
  match result with
  | .error fault => { messages := JournalEntry.shown verbosity entries, ending := .stopped fault }
  | .ok analyses =>
    if options.project then runProject options verbosity config entries analyses
    else
      outcome (printFiles options.json analyses) (JournalEntry.shown verbosity entries)
        (analyses.all FileAnalysis.valid)

def runCheck (disk : Disk) (options : CheckOptions) (verbosity : Nat)
    (loaded : ConfigLoad) : Outcome :=
  let entries := loaded.readFrom.toList.map Journal.overridesLoaded
  let shown := JournalEntry.shown verbosity entries
  match loaded.result with
  | .error fault =>
    if fault.isUserError then
      let name := options.config.getD ""
      { messages := shown ++ s!"pinguard: cannot load config {name}: {fault.message}\n"
        ending := .exit exitUsage }
    else { messages := shown, ending := .stopped fault }
  | .ok config =>
    match collectSources disk options.paths with
    | .error fault => { messages := shown, ending := .stopped fault }
    | .ok [] =>
      { messages := shown ++ "pinguard: no .rb files found\n", ending := .exit exitUsage }
    | .ok sources => runSources disk options verbosity config entries sources

/-- The outcome of a command line that is not carried out. -/
private def refused : UsageError → Outcome
  | .help _ => { ending := .usage exitValid }
  | .wrong program message =>
    { messages := s!"{program}: error: {message}", ending := .usage exitUsage }

/-- Carries out a command line. Gives the outcome and the configurations to keep. -/
def run (disk : Disk) (cache : ConfigCache) (arguments : List String) : Outcome × ConfigCache :=
  match parse arguments with
  | .error error => (refused error, cache)
  | .ok invocation =>
    match invocation.command with
    | .capabilities => ({ output := printed Report.capabilities, ending := .exit exitValid }, cache)
    | .serve host port => ({ ending := .serve host port }, cache)
    | .check options =>
      let loaded := Config.load disk cache options.config
      (runCheck disk options invocation.verbosity loaded, loaded.cache)

end PinBudget.CommandLine
