import PinBudget.Source.Argument
import PinBudget.Source.Statement
import PinBudget.Usage.Construction
import PinBudget.Usage.Event

/-!
Scanning a source for peripheral constructions and for method calls on the variables that hold them.
Right-hand sides of assignments are remembered, so that a later argument can name them.
-/
namespace PinBudget

/-- Everything found in one source, with the right-hand side last assigned to each variable and the
variables that hold a peripheral. -/
structure Extraction where
  sourceId : String
  events : List Event := []
  methodCalls : List MethodCall := []
  bindings : Source.Bindings := []
  holders : Dict String Kind := []

/-- What a scan has reached, and the fault that stopped it, if any. -/
structure Scanned where
  extraction : Extraction
  fault : Option Fault := none

namespace Extraction

open Source

/-- Adds an event; its holder holds the kind from now on. -/
def addEvent (extraction : Extraction) (event : Event) : Extraction :=
  { extraction with
    events := extraction.events ++ [event]
    holders := match event.holder with
      | some name => extraction.holders.set name event.kind
      | none => extraction.holders }

/-- Records the constructions of a statement, in order. One whose parentheses never close is left
out. Gives the variables bound here along with what was reached. -/
def addConstructions (statement : Statement) (masked : List Char) (extraction : Extraction)
    (bound : List String) :
    List (Found (Option (List Char) × Kind)) → Scanned × List String
  | [] => ({ extraction := extraction }, bound)
  | found :: rest =>
    match Usage.argumentText? statement.text masked found.stop with
    | none => addConstructions statement masked extraction bound rest
    | some text =>
      match Arguments.read extraction.bindings text with
      | .error fault => ({ extraction := extraction, fault := some fault }, bound)
      | .ok arguments =>
        let name := found.value.1.map String.ofList
        let event : Event :=
          { kind := found.value.2
            sourceId := extraction.sourceId
            line := statement.line
            holder := name
            positional := arguments.positional
            named := arguments.named
            raw := String.ofList statement.text }
        addConstructions statement masked (extraction.addEvent event) (bound ++ name.toList) rest

/-- The method calls of a statement whose receivers hold a peripheral. -/
def callsOf (extraction : Extraction) (line : Nat) (masked : List Char) : List MethodCall :=
  (matchesOf Usage.methodCall masked).filterMap fun (receiver, method) =>
    let name := String.ofList receiver
    match extraction.holders.get? name with
    | none => none
    | some kind =>
      if method == "new".toList then none
      else
        some
          { kind := kind
            receiver := name
            method := String.ofList method
            sourceId := extraction.sourceId
            line := line }

/-- Remembers the right-hand side of the assignment that a statement begins with. Its target no
longer holds a peripheral unless the statement itself has bound it to one. -/
def addAssignment (extraction : Extraction) (text : List Char) (bound : List String) :
    Extraction :=
  match assignment? text with
  | none => extraction
  | some (target, right) =>
    let name := String.ofList target
    { extraction with
      bindings := extraction.bindings.set name (String.ofList (Text.trim right))
      holders := if bound.contains name then extraction.holders
        else extraction.holders.without name }

/-- Scans one statement: its constructions, then its method calls, then its assignment. -/
def addStatement (extraction : Extraction) (statement : Statement) : Scanned :=
  let masked := mask statement.text
  let found := occurrences Usage.construction masked
  let (scanned, bound) := extraction.addConstructions statement masked [] found
  match scanned.fault with
  | some _ => scanned
  | none =>
    let reached := scanned.extraction
    let calls := reached.callsOf statement.line masked
    { extraction :=
        { reached with methodCalls := reached.methodCalls ++ calls }.addAssignment statement.text
          bound }

/-- Scans statements in order, up to the first fault. -/
def addStatements (extraction : Extraction) : List Statement → Scanned
  | [] => { extraction := extraction }
  | statement :: rest =>
    let scanned := extraction.addStatement statement
    match scanned.fault with
    | some _ => scanned
    | none => addStatements scanned.extraction rest

/-- Scans a further piece of text. Its lines count from one. -/
def feed (extraction : Extraction) (text : String) : Scanned :=
  extraction.addStatements (statements text.toList)

def instanceCount (extraction : Extraction) (kind : Kind) : Nat :=
  extraction.events.countP fun event => event.kind == kind

/-- The number of constructions of a kind and of method calls on its instances. -/
def usageCount (extraction : Extraction) (kind : Kind) : Nat :=
  extraction.instanceCount kind + extraction.methodCalls.countP fun call => call.kind == kind

end Extraction

/-- Scans a source as far as possible. -/
def scanSource (text sourceId : String) : Scanned :=
  Extraction.feed { sourceId := sourceId } text

/-- Everything found in a source. -/
def extract (text sourceId : String) : Except Fault Extraction :=
  let scanned := scanSource text sourceId
  match scanned.fault with
  | some fault => .error fault
  | none => .ok scanned.extraction

end PinBudget
