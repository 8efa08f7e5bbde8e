import PinBudget.Peripheral.Validator
import PinBudget.Pin.Designation

/-!
Claims on pins: what is asked, what is recorded when it is granted, and how it can end.
-/
namespace PinBudget

/-- A request for one pin. `function` is the role that the source asks for. -/
structure Claim where
  value : Value
  kind : Kind
  sourceId : String
  line : Int
  function : Option String := none
  holder : Option String := none
  unit : Option Int := none

/-- A pin that a peripheral holds. `function` is the role as asked for, or else that of the pin's
entry; `hardwareFunction` is the role in the words of the pin tables. -/
structure Record where
  pin : Pin
  kind : Kind
  sourceId : String
  line : Int
  function : Option String
  hardwareFunction : Option String
  holder : Option String
  info : String
  unit : Option Int
  deriving DecidableEq, Repr

/-- How a claim ends: granted with advice, refused as an error of the source, left unchecked because
the pin is no literal, or stopped by a value that cannot be dealt with at all. -/
inductive Verdict where
  | accepted (record : Record) (warnings : List String)
  | refused (issue : Issue)
  | unchecked (warning : String)
  | stopped (fault : Fault)
  deriving DecidableEq, Repr

def Verdict.isGranted : Verdict → Bool
  | .accepted .. => true
  | .refused _ | .unchecked _ | .stopped _ => false

/-- An issue whose message begins with its place. -/
def Issue.located (kind : IssueKind) (message sourceId : String) (line : Int) : Issue :=
  { kind := kind
    message := s!"{sourceId}:{line}: {message}"
    sourceId := sourceId
    line := some line }

namespace Claim

variable (claim : Claim)

/-- The refusal that names the claim's place. -/
def refusal (kind : IssueKind) (message : String) : Verdict :=
  .refused (Issue.located kind message claim.sourceId claim.line)

/-- The verdict on a pin that is not a literal. -/
def uncheckedVerdict : Verdict :=
  match claim.value.outline with
  | .error fault => .stopped fault
  | .ok shown =>
    .unchecked
      (s!"{claim.sourceId}:{claim.line}: {claim.kind.name} pin {shown} is not a literal - " ++
        "pin usage not checked")

/-- The verdict on a literal that names no pin. -/
def misread : Fault → Verdict
  | .pin error => claim.refusal error.issueKind error.message
  | fault => .stopped fault

/-- The message on a pin that is held, with the kind and the place of the claim that holds it. -/
def takenMessage (pin : Pin) (kind : Kind) (sourceId : String) (line : Int) : String :=
  s!"Pin {pin.name} already used by {kind.name} ({sourceId}:{line})"

/-- The refusal of a pin that someone holds. -/
def duplicate (pin : Pin) (existing : Record) : Verdict :=
  claim.refusal .duplicatePinClaim
    (takenMessage pin existing.kind existing.sourceId existing.line)

def record (validator : Validator) (pin : Pin) (entry : Capability) (info : String) : Record :=
  { pin := pin
    kind := claim.kind
    sourceId := claim.sourceId
    line := claim.line
    function := (claim.function.filter fun role => !role.isEmpty) <|> entry.function
    hardwareFunction := entry.function <|> claim.function.map validator.canonicalRole
    holder := claim.holder
    info := info
    unit := claim.unit }

/-- Why the warning about another unit cannot be written, where it is due: the requested unit has
too many digits. -/
def unitFault? (entry : Capability) : Option Fault :=
  match claim.kind, claim.unit with
  | .uart, some unit =>
    if entry.units.contains unit then none
    else
      match Numeral.shown unit with
      | .ok _ => none
      | .error fault => some fault
  | _, _ => none

def validated (validator : Validator) (pin : Pin) : Verdict :=
  match validator.validateForUnit pin claim.line claim.function claim.unit with
  | .granted entry info warnings =>
    match claim.unitFault? entry with
    | some fault => .stopped fault
    | none =>
      .accepted (claim.record validator pin entry info)
        (warnings.map fun warning => s!"{claim.sourceId}: {warning}")
  | .refused reason =>
    .refused
      { kind := .unsupportedPeripheralForPin
        message := s!"{claim.sourceId}: {reason}"
        sourceId := claim.sourceId
        line := some claim.line }

/-- The verdict on a claim, given the validator of its kind and the pins held so far. The checks
come in this order: the kind is offered, the pin is a literal, the literal names a pin, the pin is
free, the pin serves the kind. -/
def verdict (validator : Option Validator) (held : Dict Pin Record) : Verdict :=
  match validator with
  | none =>
    claim.refusal .unknownPeripheralKind s!"Unsupported peripheral: {claim.kind.name}"
  | some validator =>
    if claim.value.mentionsName then claim.uncheckedVerdict
    else
      match Pin.ofValue claim.value with
      | .error fault => claim.misread fault
      | .ok pin =>
        match held.get? pin with
        | some existing => claim.duplicate pin existing
        | none => claim.validated validator pin

end Claim

end PinBudget
