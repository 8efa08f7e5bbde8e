import PinBudget.Allocation.Request

/-!
The registry gives each pin to the first valid claim and records every failure, so that one bad line
never hides the rest.
-/
namespace PinBudget

/-- The pins held in one unit of analysis, and what went wrong so far. Each list grows at its
end. -/
structure Registry where
  validators : Validators := Validators.standard
  pinMap : Dict Pin Record := []
  accepted : List Record := []
  errors : List Issue := []
  warnings : List String := []

/-- The registry that a call reached, and the fault that stopped it, if any. -/
structure Reached where
  registry : Registry
  fault : Option Fault := none

namespace Registry

variable (registry : Registry)

def reset : Registry :=
  { validators := registry.validators }

def addError (issue : Issue) : Registry :=
  { registry with errors := registry.errors ++ [issue] }

def addWarnings (warnings : List String) : Registry :=
  { registry with warnings := registry.warnings ++ warnings }

def verdict (claim : Claim) : Verdict :=
  claim.verdict (registry.validators claim.kind) registry.pinMap

def grant (record : Record) : Registry :=
  { registry with
    pinMap := registry.pinMap.set record.pin record
    accepted := registry.accepted ++ [record] }

def settle : Verdict → Reached
  | .accepted record warnings => { registry := (registry.grant record).addWarnings warnings }
  | .refused issue => { registry := registry.addError issue }
  | .unchecked warning => { registry := registry.addWarnings [warning] }
  | .stopped fault => { registry := registry, fault := some fault }

def claim (claim : Claim) : Reached :=
  registry.settle (registry.verdict claim)

/-- Claims one pin for a kind given by its name; an unknown name is recorded. Tells whether the pin
was granted. -/
def claimFor (kindName : String) (asked : Kind → Claim) (sourceId : String) (line : Int) :
    Reached × Bool :=
  match Kind.parse kindName with
  | .error fault =>
    ({ registry := registry.addError
        (Issue.located .unknownPeripheralKind fault.message sourceId line) }, false)
  | .ok kind =>
    let verdict := registry.verdict (asked kind)
    (registry.settle verdict, verdict.isGranted)

def handle : Request → Reached
  | .claim claim => registry.claim claim
  | .note warning => { registry := registry.addWarnings [warning] }
  | .issue issue => { registry := registry.addError issue }
  | .stop fault => { registry := registry, fault := some fault }

/-- Handles requests in order, up to the first fault. -/
def handleAll (registry : Registry) : List Request → Reached
  | [] => { registry := registry }
  | request :: rest =>
    let reached := registry.handle request
    match reached.fault with
    | some _ => reached
    | none => handleAll reached.registry rest

def process (event : Event) : Reached :=
  registry.handleAll (event.requests registry.validators)

/-- Processes events in order, up to the first fault. -/
def processAll (events : List Event) : Reached :=
  registry.handleAll (events.flatMap fun event => event.requests registry.validators)

end Registry

/-- Everything that a registry granted and refused. -/
structure Allocation where
  accepted : List Record := []
  errors : List Issue := []
  warnings : List String := []
  pinMap : Dict Pin Record := []
  deriving DecidableEq, Repr

namespace Allocation

def ok (allocation : Allocation) : Bool :=
  allocation.errors.isEmpty

/-- The pins with the records that hold them, in the order of the pins. -/
def byPin (allocation : Allocation) : Dict Pin Record :=
  allocation.pinMap.mergeSort fun first second => first.1.flatIndex ≤ second.1.flatIndex

end Allocation

/-- The registry's result, with warnings for serial lines that are only half set up. -/
def Registry.result (registry : Registry) : Allocation :=
  let setup := match registry.validators .uart with
    | some validator =>
      validator.setupWarnings (registry.accepted.map fun record => (record.pin, record.kind))
    | none => []
  { accepted := registry.accepted
    errors := registry.errors
    warnings := registry.warnings ++ setup
    pinMap := registry.pinMap }

/-- The allocation of events in a registry, and the registry behind it. -/
def Registry.allocate (registry : Registry) (events : List Event) :
    Except Fault (Registry × Allocation) :=
  let reached := registry.processAll events
  match reached.fault with
  | some fault => .error fault
  | none => .ok (reached.registry, reached.registry.result)

end PinBudget
