import PinBudget.CommandLine.Token
import PinBudget.Number.Input

/-!
The commands of the command line, with their options read and checked.
-/
namespace PinBudget.CommandLine

structure CheckOptions where
  paths : List String := []
  project : Bool := false
  json : Bool := false
  responseLimit : Option Float := none
  config : Option String := none
  estimate : Bool := true
  workers : Option Int := none

inductive Command where
  | check (options : CheckOptions)
  | capabilities
  | serve (host : String) (port : Int)

/-- A command and how much detail its journal shows. -/
structure Invocation where
  verbosity : Nat
  command : Command

/-! ## Commands with options of their own -/

/-- How a command reads its options into a state. -/
structure Grammar (K S : Type) where
  table : OptionTable K
  flag : S → K → Except UsageError S
  value : S → K → String → Except UsageError S

/-- How far the reading of a command's arguments has come. A run is what was read since the last
option, and `extras` is what the command cannot use. -/
structure Progress (K S : Type) where
  state : S
  awaiting : Option K := none
  run : List String := []
  hasArgument : Bool := false
  positional : Option (List String) := none
  extras : List String := []

namespace Progress

variable {K S : Type}

/-- Ends a run. The first run with an argument gives the command's arguments, without its first
separator; any other run is left over. -/
private def endRun (takesArguments : Bool) (progress : Progress K S) : Progress K S :=
  let ended := { progress with run := [], hasArgument := false }
  if takesArguments && progress.hasArgument && progress.positional.isNone then
    { ended with positional := some (progress.run.erase "--") }
  else { ended with extras := progress.extras ++ progress.run }

end Progress

namespace Grammar

variable {K S : Type} [DecidableEq K] (grammar : Grammar K S) (takesArguments : Bool)

private def missingValue {α : Type} (key : K) : Except UsageError α :=
  grammar.table.wrongOption key "expected one argument"

/-- Reads an option behind the end of a run. -/
private def readOption (progress : Progress K S) (key : K) (attached : Option Attached) :
    Except UsageError (Progress K S) :=
  if grammar.table.takesValue key then
    match attached with
    | none => .ok { progress with awaiting := some key }
    | some value =>
      (grammar.value progress.state key value.text).map fun state =>
        { progress with state := state }
  else
    match grammar.table.flags key attached with
    | .error error => .error error
    | .ok keys =>
      (keys.foldlM grammar.flag progress.state).map fun state => { progress with state := state }

private def readToken (progress : Progress K S) (token : Token K) :
    Except UsageError (Progress K S) :=
  match progress.awaiting, token with
  | some key, .argument text =>
    (grammar.value progress.state key text).map fun state =>
      { progress with state := state, awaiting := none }
  | some key, _ => grammar.missingValue key
  | none, .argument text =>
    .ok { progress with run := progress.run ++ [text], hasArgument := true }
  | none, .separator => .ok { progress with run := progress.run ++ ["--"] }
  | none, .option key attached =>
    grammar.readOption (progress.endRun takesArguments) key attached
  | none, .unknown text =>
    let ended := progress.endRun takesArguments
    .ok { ended with extras := ended.extras ++ [text] }

def read (start : S) (arguments : List String) : Except UsageError (Progress K S) := do
  let tokens ← grammar.table.tokens arguments
  let progress ← tokens.foldlM (grammar.readToken takesArguments) { state := start }
  match progress.awaiting with
  | some key => grammar.missingValue key
  | none => return progress.endRun takesArguments

end Grammar

/-- A value of a type that an option needs. -/
private def typed {K α : Type} [DecidableEq K] (table : OptionTable K) (key : K) (type : String)
    (read? : List Char → Option α) (text : String) : Except UsageError α :=
  match read? text.toList with
  | some value => .ok value
  | none => table.wrongOption key s!"invalid {type} value: {Text.quotedString text}"

inductive CheckKey where
  | help
  | project
  | json
  | responseLimit
  | config
  | noEstimate
  | workers
  deriving DecidableEq, Repr

private def checkTable : OptionTable CheckKey :=
  { program := "pinguard check"
    names := [("-h", .help), ("--help", .help), ("--project", .project), ("--json", .json),
      ("--max-response-ms", .responseLimit), ("--config", .config),
      ("--no-estimate", .noEstimate), ("--workers", .workers)]
    takesValue := fun key => key == .responseLimit || key == .config || key == .workers }

private def checkGrammar : Grammar CheckKey CheckOptions :=
  { table := checkTable
    flag := fun options key =>
      match key with
      | .help => .error (.help checkTable.program)
      | .project => .ok { options with project := true }
      | .json => .ok { options with json := true }
      | .noEstimate => .ok { options with estimate := false }
      | .responseLimit | .config | .workers => .ok options
    value := fun options key text =>
      match key with
      | .responseLimit =>
        (typed checkTable key "float" Numeral.readFloat? text).map fun limit =>
          { options with responseLimit := some limit }
      | .config => .ok { options with config := some text }
      | .workers =>
        (typed checkTable key "int" Numeral.readInt? text).map fun count =>
          { options with workers := some count }
      | .help | .project | .json | .noEstimate => .ok options }

/-- Reads `check`, and what it cannot use. -/
private def readCheck (arguments : List String) : Except UsageError (Command × List String) := do
  let progress ← checkGrammar.read true {} arguments
  match progress.positional with
  | none => checkTable.wrong "the following arguments are required: paths"
  | some paths => return (.check { progress.state with paths := paths }, progress.extras)

inductive HelpKey where
  | help
  deriving DecidableEq, Repr

private def capabilitiesGrammar : Grammar HelpKey Unit :=
  { table :=
      { program := "pinguard capabilities"
        names := [("-h", .help), ("--help", .help)]
        takesValue := fun _ => false }
    flag := fun _ _ => .error (.help "pinguard capabilities")
    value := fun state _ _ => .ok state }

private def readCapabilities (arguments : List String) :
    Except UsageError (Command × List String) := do
  let progress ← capabilitiesGrammar.read false () arguments
  return (.capabilities, progress.extras)

inductive ServeKey where
  | help
  | host
  | port
  deriving DecidableEq, Repr

private def serveTable : OptionTable ServeKey :=
  { program := "pinguard serve"
    names := [("-h", .help), ("--help", .help), ("--host", .host), ("--port", .port)]
    takesValue := fun key => key != .help }

private def serveGrammar : Grammar ServeKey (String × Int) :=
  { table := serveTable
    flag := fun state key =>
      match key with
      | .help => .error (.help serveTable.program)
      | .host | .port => .ok state
    value := fun state key text =>
      match key with
      | .host => .ok (text, state.2)
      | .port => (typed serveTable key "int" Numeral.readInt? text).map fun port => (state.1, port)
      | .help => .ok state }

private def readServe (arguments : List String) : Except UsageError (Command × List String) := do
  let progress ← serveGrammar.read false ("127.0.0.1", 8000) arguments
  return (.serve progress.state.1 progress.state.2, progress.extras)

/-- The commands by name. -/
private def commands : List (String × (List String → Except UsageError (Command × List String))) :=
  [("check", readCheck), ("capabilities", readCapabilities), ("serve", readServe)]

/-! ## The whole command line -/

/-- The options before the command. -/
inductive MainKey where
  | help
  | verbose
  deriving DecidableEq, Repr

private def mainTable : OptionTable MainKey :=
  { program := "pinguard"
    names := [("-h", .help), ("--help", .help), ("-v", .verbose), ("--verbose", .verbose)]
    takesValue := fun _ => false }

/-- Reads the command with a name, and what it cannot use. -/
private def readCommand (name : String) (arguments : List String) :
    Except UsageError (Command × List String) :=
  match commands.lookup name with
  | some read => read arguments
  | none =>
    let choices := ", ".intercalate (commands.map fun command => Text.quotedString command.1)
    mainTable.wrong
      s!"argument cmd: invalid choice: {Text.quotedString name} (choose from {choices})"

/-- Counts the flags that ask for detail; help stops the count. -/
private def countVerbose (verbosity : Nat) (key : MainKey) : Except UsageError Nat :=
  match key with
  | .help => .error (.help mainTable.program)
  | .verbose => .ok (verbosity + 1)

/-- Ends with the command, or with an error about what is left over. -/
private def finish (verbosity : Nat) (extras : List String)
    (result : Except UsageError (Command × List String)) : Except UsageError Invocation := do
  let (command, left) ← result
  match extras ++ left with
  | [] => return { verbosity := verbosity, command := command }
  | unused =>
    let shown := " ".intercalate unused
    mainTable.wrong s!"unrecognized arguments: {shown}"

private def commandMissing {α : Type} : Except UsageError α :=
  mainTable.wrong "the following arguments are required: cmd"

/-- Reads options up to the command, which takes all that follows. Each argument comes with its
text. -/
private def readFrom (verbosity : Nat) (extras : List String) :
    List (Token MainKey × String) → Except UsageError Invocation
  | [] => commandMissing
  | (.argument name, _) :: rest =>
    finish verbosity extras (readCommand name (rest.map Prod.snd))
  | (.separator, text) :: rest =>
    if rest.isEmpty then commandMissing
    else finish verbosity extras (readCommand text (rest.map Prod.snd))
  | (.unknown text, _) :: rest => readFrom verbosity (extras ++ [text]) rest
  | (.option key attached, _) :: rest =>
    match mainTable.flags key attached with
    | .error error => .error error
    | .ok keys =>
      match keys.foldlM countVerbose verbosity with
      | .error error => .error error
      | .ok counted => readFrom counted extras rest

def parse (arguments : List String) : Except UsageError Invocation := do
  let tokens ← mainTable.tokens arguments
  readFrom 0 [] (tokens.zip arguments)

end PinBudget.CommandLine
