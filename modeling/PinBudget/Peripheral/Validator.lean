import PinBudget.Peripheral.Capability

/-!
Whether a pin can serve a peripheral in a requested role, with advice on its use. Every kind works
the same way on its table; the kinds differ in how they name roles, describe entries and advise.
-/
namespace PinBudget

/-- A kind with the table that its pins are looked up in. -/
structure Validator where
  kind : Kind
  table : CapabilityTable
  lineDefaults : Dict Int UartPins := uartDefaults

/-- The outcome of asking for a pin. -/
inductive Validation where
  | granted (entry : Capability) (info : String) (warnings : List String)
  | refused (reason : String)
  deriving DecidableEq, Repr

namespace Validation

def ok : Validation → Bool
  | granted .. => true
  | refused _ => false

def entry? : Validation → Option Capability
  | granted entry .. => some entry
  | refused _ => none

def info : Validation → String
  | granted _ info _ => info
  | refused _ => ""

def warnings : Validation → List String
  | granted _ _ warnings => warnings
  | refused _ => []

def error? : Validation → Option String
  | granted .. => none
  | refused reason => some reason

end Validation

namespace Validator

/-- The validator of a kind with the board's own table. -/
def standard (kind : Kind) : Validator :=
  { kind := kind, table := CapabilityTable.ofKind kind }

variable (validator : Validator)

def supports (pin : Pin) : Bool :=
  Dict.has validator.table pin

def entries (pin : Pin) : List Capability :=
  (Dict.get? validator.table pin).getD []

def validPins : List Pin :=
  Pin.sort (validator.table.map Prod.fst)

/-- The pins of the table, as messages list them. -/
def validPinsText : String :=
  ", ".intercalate (validator.validPins.map Pin.name)

/-- The table's words for the role names of source text. -/
def roleAliases : Kind → List (String × String)
  | .spi => [("MOSI", "SDO"), ("MISO", "SDI")]
  | .uart => [("TXD", "TX"), ("RXD", "RX")]
  | .adc | .pwm | .gpio | .i2c => []

/-- The table's word for a role, whatever its case. -/
def canonicalRole (role : String) : String :=
  let capital := Text.upperString role
  ((roleAliases validator.kind).lookup capital).getD capital

/-- A text that may be missing, as messages show it. -/
private def optionText : Option String → String
  | some text => text
  | none => "None"

/-- What an entry offers, as an addition to the pin's name. -/
def describeEntry (entry : Capability) : String :=
  let function := optionText entry.function
  let unit := entry.unitLabel
  match validator.kind with
  | .adc =>
    let channel := optionText (entry.channel.map toString)
    let name := optionText entry.name
    s!" (ADC Channel {channel}, {name})"
  | .pwm =>
    let group := optionText entry.group
    s!" ({group} Unit {unit})"
  | .gpio => ""
  | .i2c =>
    let module := optionText entry.module
    s!" ({module} {function}, {entry.register})"
  | .spi => s!" (SPI{unit} {function}, {entry.register})"
  | .uart => s!" (UART{unit} {function}, {entry.register})"

private def nonempty? (text : Option String) : Option String :=
  text.filter fun shown => !shown.isEmpty

/-- The roles of several entries, in table order. -/
private def rolesText (entries : List Capability) : String :=
  "/".intercalate (entries.map fun entry => (nonempty? entry.function).getD "?")

/-- What a pin offers, as an addition to its name. -/
def describe (pin : Pin) : String :=
  match validator.entries pin with
  | [] => ""
  | [entry] => validator.describeEntry entry
  | several => s!" ({validator.kind.name} Multi-function: {rolesText several})"

/-- The first pin of the table with an entry that passes a test. -/
private def firstPin? (test : Capability → Bool) : Option Pin :=
  (validator.table.find? fun row => row.2.any test).map Prod.fst

def pinForChannel? (channel : Option Int) : Option Pin :=
  validator.firstPin? fun entry => entry.channel == channel

/-- The pin of a role, whatever the role's case. -/
def pinForFunction? (function : String) : Option Pin :=
  validator.firstPin? fun entry => entry.function == some (Text.upperString function)

def pinsForUnit (unit : Int) : List Pin :=
  Pin.sort ((validator.table.filter fun row => row.2.any fun entry => entry.units.contains unit).map
    Prod.fst)

def pinsForPort (port : Port) : List Pin :=
  validator.validPins.filter fun pin => pin.port == port

/-- Integers in order, each once. -/
private def sortedUnits (units : List Int) : List Int :=
  (units.mergeSort fun first second => first ≤ second).eraseDups

/-- The hardware units of a kind that has units. -/
def units? : Option (List Int) :=
  match validator.kind with
  | .pwm => some (sortedUnits (validator.table.flatMap fun row => row.2.flatMap Capability.units))
  | .spi => some (sortedUnits (spiDefaults.map Prod.fst))
  | .uart => some (sortedUnits (validator.lineDefaults.map Prod.fst))
  | .adc | .gpio | .i2c => none

/-- The analog channels in order. Entries without a channel cannot be put in order. -/
def channels : Except Fault (List (Option Int)) :=
  let found := validator.table.flatMap fun row => row.2.map Capability.channel
  if found.all Option.isSome then
    .ok (((found.filterMap id).mergeSort fun first second => first ≤ second).map some)
  else if found.length == 1 then .ok found
  else .error .wrongType

/-- The pins that a UART unit takes by default. -/
def uartDefaults? (unit : Int) : Option UartPins :=
  Dict.get? validator.lineDefaults unit

private def pinText : Option Pin → String
  | some pin => pin.name
  | none => "None"

def busAdvice (line : Int) (entry : Capability) : List String :=
  let scl := pinText (validator.pinForFunction? "SCL")
  let sda := pinText (validator.pinForFunction? "SDA")
  let module := optionText entry.module
  [s!"Line {line}: I2C requires both SCL ({scl}) and SDA ({sda}) pins for proper operation",
    s!"Line {line}: {module} module operates at 100kHz only"]

def clockedAdvice (line : Int) (entry : Capability) : List String :=
  let unit := entry.unitLabel
  let role :=
    if entry.function == some "SDI" || entry.function == some "SDO" then
      [s!"Line {line}: SPI{unit} requires SDI, SDO, and SCK pins for complete setup"]
    else if entry.function == some "SCK" then
      [s!"Line {line}: SCK pin is fixed for SPI{unit} (cannot be changed)"]
    else []
  role ++ [s!"Line {line}: SPI frequency range: 9.77kHz - 5MHz only"]

def lineAdvice (line : Int) (entry : Capability) : List String :=
  let unit := entry.unitLabel
  let role :=
    if entry.function == some "RX" then
      [s!"Line {line}: UART{unit} requires both TX and RX pins for full duplex communication",
        s!"Line {line}: UART{unit} RX pin - multiple options available"]
    else if entry.function == some "TX" && entry.remappable then
      [s!"Line {line}: UART{unit} TX pin - default assignment (remappable on PIC32)"]
    else []
  let rates := ", ".intercalate (baudRates.map toString)
  let defaults := entry.units.filterMap fun own =>
    (validator.uartDefaults? own).map fun pins =>
      s!"Line {line}: UART{own} defaults: TX={pins.tx.name}, RX={pins.rx.name}"
  role ++ [s!"Line {line}: UART supports standard baud rates ({rates})"] ++ defaults

/-- What the user of an entry should know. -/
def advisories (line : Int) (entry : Capability) : List String :=
  match validator.kind with
  | .adc | .pwm | .gpio => []
  | .i2c => validator.busAdvice line entry
  | .spi => clockedAdvice line entry
  | .uart => validator.lineAdvice line entry

/-- Whether an entry can take a role: it has that role, or none at all. -/
def matchesRole (wanted : String) (entry : Capability) : Bool :=
  entry.function == none || entry.function == some wanted

/-- The entries of a pin that can take the requested role, in table order. -/
def matching (pin : Pin) (role : Option String) : List Capability :=
  match role with
  | none => validator.entries pin
  | some asked => (validator.entries pin).filter (matchesRole (validator.canonicalRole asked))

def unsupported (pin : Pin) (line : Int) : Validation :=
  .refused
    (s!"Line {line}: Pin {pin.name} cannot be used for {validator.kind.name}. " ++
      s!"Valid pins: {validator.validPinsText}")

def wrongRole (pin : Pin) (line : Int) (role : Option String) : Validation :=
  let asked := Text.upperString (role.getD "")
  let functions := (validator.entries pin).filterMap fun entry => nonempty? entry.function
  let provided := "/".intercalate (functions.mergeSort.eraseDups)
  .refused
    (s!"Line {line}: Pin {pin.name} cannot be used as {validator.kind.name} {asked} " ++
      s!"(provides {provided})")

/-- The outcome for the entries that can take the role; the first of them is taken. -/
def grant (pin : Pin) (line : Int) (entry : Capability) (others : List Capability) :
    Validation :=
  let choice :=
    if others.isEmpty then []
    else
      [s!"Line {line}: Multi-function pin {pin.name} - specify intended use " ++
        s!"({rolesText (entry :: others)})"]
  let info :=
    if others.isEmpty then validator.describeEntry entry else validator.describe pin
  .granted entry info (choice ++ validator.advisories line entry)

/-- Asks a table with roles for a pin. -/
def validateRole (pin : Pin) (line : Int) (role : Option String) : Validation :=
  if (validator.entries pin).isEmpty then validator.unsupported pin line
  else
    match validator.matching pin role with
    | [] => validator.wrongRole pin line role
    | entry :: others => validator.grant pin line entry others

/-- Asks for a digital pin; roles play no part. -/
def validateDigital (pin : Pin) (line : Int) : Validation :=
  match validator.entries pin with
  | entry :: _ => .granted entry "" []
  | [] =>
    .refused
      (s!"Line {line}: Invalid pin {pin.name}. Valid ports: {Port.a.rangeText}, " ++
        s!"{Port.b.rangeText}")

/-- Asks for a pin in a role on behalf of a source line. -/
def validate (pin : Pin) (line : Int) (role : Option String) : Validation :=
  match validator.kind with
  | .gpio => validator.validateDigital pin line
  | .adc | .pwm | .i2c | .spi | .uart => validator.validateRole pin line role

/-- Asks for a pin of any table. A digital table that lists a pin without an entry has nothing to
grant. -/
def validateAny (pin : Pin) (line : Int) (role : Option String) : Except Fault Validation :=
  if validator.kind == .gpio && validator.supports pin && (validator.entries pin).isEmpty then
    .error .missingPosition
  else .ok (validator.validate pin line role)

/-- Adds a warning where the granted entry belongs to another unit than the requested one. -/
def warnOtherUnit (pin : Pin) (line : Int) (unit : Option Int) :
    Validation → Validation
  | .granted entry info warnings =>
    match unit with
    | none => .granted entry info warnings
    | some asked =>
      if entry.units.contains asked then .granted entry info warnings
      else
        let function := optionText entry.function
        .granted entry info
          (warnings ++
            [s!"Line {line}: Pin {pin.name} is a UART{entry.unitLabel} {function} pin, " ++
              s!"but UART{asked} was requested"])
  | refused => refused

/-- Asks for a pin in a role for a unit; only a UART looks at the unit. -/
def validateForUnit (pin : Pin) (line : Int) (role : Option String) (unit : Option Int) :
    Validation :=
  match validator.kind with
  | .uart => warnOtherUnit pin line unit (validator.validate pin line role)
  | .adc | .pwm | .gpio | .i2c | .spi => validator.validate pin line role

/-- Whether one of the pins has an entry of a unit with a function. -/
private def unitHasFunction (pins : List Pin) (unit : Int) (function : String) : Bool :=
  pins.any fun pin => (validator.entries pin).any fun entry =>
    entry.units.contains unit && entry.function == some function

theorem unitHasFunction_iff (pins : List Pin) (unit : Int) (function : String) :
    validator.unitHasFunction pins unit function = true ↔
      ∃ pin ∈ pins, ∃ entry ∈ validator.entries pin,
        unit ∈ entry.units ∧ entry.function = some function := by
  simp only [unitHasFunction, List.any_eq_true, Bool.and_eq_true, List.contains_iff_mem, beq_iff_eq]

/-- Warns for each unit that has a transmit pin without a receive pin, or the reverse. `claims`
are pins with the kinds that hold them. -/
def setupWarnings (claims : List (Pin × Kind)) : List String :=
  let pins := (claims.filter fun claim => claim.2 == .uart).map Prod.fst
  (validator.units?.getD []).filterMap fun unit =>
    let sends := validator.unitHasFunction pins unit "TX"
    let receives := validator.unitHasFunction pins unit "RX"
    if sends && !receives then
      some s!"UART{unit} has TX pin but no RX pin - receive capability disabled"
    else if receives && !sends then
      some s!"UART{unit} has RX pin but no TX pin - transmit capability disabled"
    else none

end Validator

end PinBudget
