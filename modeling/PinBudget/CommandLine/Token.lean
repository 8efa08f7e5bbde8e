import PinBudget.Text.Digit
import PinBudget.Text.Printable

/-!
Command-line arguments sorted into options, plain arguments and the separator. An option may be
written by any beginning that only it has, and may carry its value behind an equals sign.
-/
namespace PinBudget.CommandLine

/-- Why a command line is not carried out: help was asked for, or it is wrong. -/
inductive UsageError where
  | help (program : String)
  | wrong (program message : String)
  deriving DecidableEq, Repr

/-- The options of one command: their names in order, and whether they take a value. -/
structure OptionTable (K : Type) where
  program : String
  names : List (String × K)
  takesValue : K → Bool

/-- A text written in the same argument as its option. -/
structure Attached where
  short : Bool
  text : String
  deriving DecidableEq, Repr

/-- One argument of a command line. -/
inductive Token (K : Type) where
  | argument (text : String)
  | separator
  | option (key : K) (attached : Option Attached)
  | unknown (text : String)

namespace OptionTable

variable {K : Type} [DecidableEq K] (table : OptionTable K)

def wrong {α : Type} (message : String) : Except UsageError α :=
  .error (.wrong table.program message)

/-- An error about an option, which is shown by all its names. -/
def wrongOption {α : Type} (key : K) (message : String) : Except UsageError α :=
  let names := (table.names.filter fun name => name.2 = key).map Prod.fst
  let shown := "/".intercalate names
  table.wrong s!"argument {shown}: {message}"

private def isShort (name : String) : Bool :=
  !name.startsWith "--"

/-- A text cut at its first equals sign. -/
private def cutAtSign (text : String) : String × Option Attached :=
  let (front, rest) := text.toList.span (· != '=')
  let name := String.ofList front
  (name, match rest with
    | _ :: value => some ⟨isShort name, String.ofList value⟩
    | [] => none)

/-- The options that a text can stand for, with their names: long ones by a beginning of the name,
short ones with more letters behind them. -/
private def candidates (text : String) : List (String × Token K) :=
  let (beginning, attached) := cutAtSign text
  if text.startsWith "--" then
    (table.names.filter fun name => name.1.startsWith beginning).map fun (name, key) =>
      (name, .option key attached)
  else
    table.names.filterMap fun (name, key) =>
      if name.toList == text.toList.take 2 then
        some (name, .option key (some ⟨true, String.ofList (text.toList.drop 2)⟩))
      else if name.startsWith text then some (name, .option key none)
      else none

/-- Whether a text is a negative number; a line break may follow it. -/
private def isNegativeNumber (text : List Char) : Bool :=
  let body := if text.getLast? == some '\n' then text.dropLast else text
  match body with
  | '-' :: number =>
    let (whole, rest) := number.span Text.isDecimal
    match rest with
    | [] => !whole.isEmpty
    | '.' :: fraction => !fraction.isEmpty && fraction.all Text.isDecimal
    | _ => false
  | _ => false

/-- What a text that is no exact option can be. -/
private def inexactToken (text : String) : Except UsageError (Token K) :=
  match table.candidates text with
  | [] =>
    if isNegativeNumber text.toList || text.toList.contains ' ' then .ok (.argument text)
    else .ok (.unknown text)
  | [(_, token)] => .ok token
  | several =>
    let shown := ", ".intercalate (several.map Prod.fst)
    table.wrong s!"ambiguous option: {text} could match {shown}"

def token (text : String) : Except UsageError (Token K) :=
  if !text.startsWith "-" then .ok (.argument text)
  else
    match table.names.lookup text with
    | some key => .ok (.option key none)
    | none =>
      if text.length == 1 then .ok (.argument text)
      else
        let (name, attached) := cutAtSign text
        match attached, table.names.lookup name with
        | some value, some key => .ok (.option key (some value))
        | _, _ => table.inexactToken text

def tokens : List String → Except UsageError (List (Token K))
  | [] => .ok []
  | text :: rest =>
    if text == "--" then .ok (.separator :: rest.map .argument)
    else
      match table.token text with
      | .error error => .error error
      | .ok token => (tokens rest).map (token :: ·)

private def ignoredValue {α : Type} (key : K) (value : String) : Except UsageError α :=
  table.wrongOption key s!"ignored explicit argument {Text.quotedString value}"

/-- Flags that share one argument: each letter behind the first flag is a further flag, and what
follows the last of them is refused. -/
private def flagsFrom (key : K) : List Char → Except UsageError (List K)
  | [] => .ok [key]
  | letter :: more =>
    match table.names.lookup (String.ofList ['-', letter]) with
    | none => table.ignoredValue key (String.ofList (letter :: more))
    | some next => (flagsFrom next more).map (key :: ·)

/-- The flags that an argument gives. Only a short flag can have others behind it, also behind an
equals sign. -/
def flags (key : K) (attached : Option Attached) : Except UsageError (List K) :=
  match attached with
  | none => .ok [key]
  | some value =>
    if value.short && !value.text.isEmpty then table.flagsFrom key value.text.toList
    else table.ignoredValue key value.text

end OptionTable

end PinBudget.CommandLine
