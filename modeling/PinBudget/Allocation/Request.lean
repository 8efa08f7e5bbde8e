import PinBudget.Allocation.Claim
import PinBudget.Usage.Event

/-!
What a usage event asks of a registry. The requests follow from the event and the offered validators
alone; whether a claim is granted is up to the registry.
-/
namespace PinBudget

/-- One thing that an event asks for or reports. -/
inductive Request where
  | claim (claim : Claim)
  | note (warning : String)
  | issue (issue : Issue)
  | stop (fault : Fault)

/-- The validators on offer, by kind. -/
abbrev Validators := Kind → Option Validator

/-- The board's own validators for all kinds. -/
def Validators.standard : Validators := fun kind => some (Validator.standard kind)

/-- The board's own validators for some kinds. -/
def Validators.only (kinds : List Kind) : Validators := fun kind =>
  if kinds.contains kind then some (Validator.standard kind) else none

/-- A pin that a constructor takes: the role, the name of its argument, and its position if the
argument can be positional. -/
structure PinRole where
  role : Option String
  name : String
  position : Option Nat

/-- The pins that a kind's constructor takes. -/
def Kind.pinRoles : Kind → List PinRole
  | .adc | .pwm | .gpio => [⟨none, "pin", some 0⟩]
  | .i2c => [⟨some "SDA", "sda_pin", some 0⟩, ⟨some "SCL", "scl_pin", some 1⟩]
  | .spi =>
    [⟨some "SCK", "sck_pin", some 0⟩, ⟨some "MOSI", "mosi_pin", some 1⟩,
      ⟨some "MISO", "miso_pin", some 2⟩]
  | .uart => [⟨some "TXD", "txd_pin", none⟩, ⟨some "RXD", "rxd_pin", none⟩]

namespace Event

variable (event : Event)

def issueRequest (message : String) : Request :=
  .issue (Issue.located .unknownPeripheralKind message event.sourceId event.line)

def claimRequest (value : Value) (role : Option String) (unit : Option Int) : Request :=
  .claim
    { value := value
      kind := event.kind
      sourceId := event.sourceId
      line := event.line
      function := role
      holder := event.holder
      unit := unit }

def missingPin (role : Option String) : Request :=
  let label := match role with
    | some name => if name.isEmpty then "pin" else s!"{name} pin"
    | none => "pin"
  .note
    (s!"{event.sourceId}:{event.line}: {event.kind.name}.new has no {label} argument - " ++
      "pin usage not checked")

/-- The request for one pin of the constructor: nil counts as missing. -/
def roleRequest (role : PinRole) : Request :=
  let value := event.argument role.position (some role.name)
  if value.isNil then event.missingPin role.role
  else
    match event.unit with
    | .error fault => .stop fault
    | .ok unit => event.claimRequest value role.role unit

/-- The unit that an event uses, or why it has none. -/
inductive UnitChoice where
  | number (unit : Int)
  | unusable (reason : Request)

/-- The unit given by the event, or a default where none is given. -/
def unitOr (default : Int) : UnitChoice :=
  match event.unitArgument with
  | .error fault => .unusable (.stop fault)
  | .ok .nil => .number default
  | .ok raw =>
    match event.unit with
    | .error fault => .unusable (.stop fault)
    | .ok (some unit) => .number unit
    | .ok none =>
      match raw with
      | .unresolved name =>
        .unusable (.note
          (s!"{event.sourceId}:{event.line}: {event.kind.name}.new unit {name} is not a literal" ++
            " - unit not checked"))
      | _ =>
        match raw.shown with
        | .error fault => .unusable (.stop fault)
        | .ok text => .unusable (event.issueRequest s!"Invalid {event.kind.name} unit: {text}")

/-- The report of a unit that the kind does not have. -/
def unknownUnit (unit : Int) : Request :=
  match Numeral.shown unit with
  | .error fault => .stop fault
  | .ok text => event.issueRequest s!"Invalid {event.kind.name} unit: {text}"

def spiRequests (validators : Validators) : List Request :=
  match event.unitOr 1 with
  | .unusable reason => [reason]
  | .number unit =>
    match validators .spi with
    | none => [.stop .missingName]
    | some _ =>
      match SpiPins.ofUnit? unit with
      | none => [event.unknownUnit unit]
      | some pins =>
        [event.claimRequest (.pin pins.sck) (some "SCK") (some unit),
          event.claimRequest (.pin pins.mosi) (some "MOSI") (some unit),
          event.claimRequest (.pin pins.miso) (some "MISO") (some unit)]

def uartDefaultRequests (validators : Validators) (unit : Int) : List Request :=
  match validators .uart with
  | none => [.stop .missingName]
  | some validator =>
    match validator.uartDefaults? unit with
    | none => [event.unknownUnit unit]
    | some pins =>
      [event.claimRequest (.pin pins.tx) (some "TXD") (some unit),
        event.claimRequest (.pin pins.rx) (some "RXD") (some unit)]

/-- A pin of a UART that names its pins. -/
def lineRequest (role : String) (value : Value) (unit : Option Int) : Request :=
  if value.isNil then event.missingPin (some role) else event.claimRequest value (some role) unit

/-- The requests of a UART with a unit: the pins it names, else the default pins of its unit. -/
def uartUnitRequests (validators : Validators) : List Request :=
  let txd := event.namedValue "txd_pin"
  let rxd := event.namedValue "rxd_pin"
  match event.unitOr 1 with
  | .unusable reason =>
    if txd.isNil && rxd.isNil then [reason]
    else [reason, event.lineRequest "TXD" txd none, event.lineRequest "RXD" rxd none]
  | .number unit =>
    if txd.isNil && rxd.isNil then event.uartDefaultRequests validators unit
    else [event.lineRequest "TXD" txd (some unit), event.lineRequest "RXD" rxd (some unit)]

/-- The requests of a UART: the single pin it begins with, where it names neither pins nor a unit,
and else the pins of its unit. -/
def uartRequests (validators : Validators) : List Request :=
  match event.positional with
  | first :: _ =>
    if (event.namedValue "txd_pin").isNil && (event.namedValue "rxd_pin").isNil then
      match event.unitArgument with
      | .error fault => [.stop fault]
      | .ok .nil => [event.claimRequest first none none]
      | .ok _ => event.uartUnitRequests validators
    else event.uartUnitRequests validators
  | [] => event.uartUnitRequests validators

/-- The unit whose default pins a UART construction takes, with these pins. -/
def uartDefaultPins? (validators : Validators) : Option (Int × UartPins) :=
  let namesPins := !(event.namedValue "txd_pin").isNil || !(event.namedValue "rxd_pin").isNil
  let beginsWithPin := !event.positional.isEmpty && match event.unitArgument with
    | .ok .nil => true
    | _ => false
  if event.kind != .uart || namesPins || beginsWithPin then none
  else
    match event.unitOr 1 with
    | .unusable _ => none
    | .number unit =>
      match (validators .uart).bind fun validator => validator.uartDefaults? unit with
      | some pins => some (unit, pins)
      | none => none

/-- Whether an SPI construction names none of its pins. -/
def usesSpiDefaults : Bool :=
  event.kind == .spi && event.positional.isEmpty &&
    !(Kind.pinRoles .spi).any fun role => event.named.has role.name

/-- Everything that an event asks for, in order. -/
def requests (validators : Validators) : List Request :=
  match event.kind with
  | .uart => event.uartRequests validators
  | kind =>
    if event.usesSpiDefaults then event.spiRequests validators
    else kind.pinRoles.map event.roleRequest

end Event

end PinBudget
