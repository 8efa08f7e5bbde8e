import PinBudget.Allocation.Claim
import PinBudget.Config.Setting
import PinBudget.Estimate.Finding
import PinBudget.Usage.Extraction

/-!
Compatibility with the firmware: its timer, its interrupt priorities and the pins of its console.
-/
namespace PinBudget

/-- A configured peripheral as the firmware sees it. Its type is the class; timers are `TIMER`. -/
structure PeripheralSetup where
  type : String
  unit : Option Int := none
  interruptPriority : Option Int := none
  sourceId : String := ""
  line : Option Int := none
  deriving DecidableEq, Repr

def PeripheralSetup.ofEvent (event : Event) : Except Fault PeripheralSetup := do
  let unit ← event.unit
  let priority ← event.interruptPriority
  return {
    type := event.kind.name
    unit := unit
    interruptPriority := priority
    sourceId := event.sourceId
    line := some event.line }

/-- A claimed pin and the place of the claim, where that is known. A pin without a source of its own
belongs to the one that is checked. -/
structure HeldPin where
  pin : Pin
  sourceId : Option String := none
  line : Option Int := none
  deriving DecidableEq, Repr

/-- A pin with the record that holds it. -/
def HeldPin.ofEntry (entry : Pin × Record) : HeldPin :=
  { pin := entry.1, sourceId := some entry.2.sourceId, line := some entry.2.line }

namespace Firmware

variable (config : Config)

/-- Whether a unit is the timer that the scheduler needs. -/
def isReserved (unit : Option Int) : Bool :=
  match unit, config.hardware .reservedTimer with
  | none, .null => true
  | none, _ => false
  | some number, reserved => Json.isInt number reserved

def timerCount : Except Fault Nat :=
  match config.hardware .timerCount with
  | .number (.int n) => .ok n.toNat
  | .bool value => .ok (if value then 1 else 0)
  | _ => .error .wrongType

/-- The timers that user code may take, as messages list them. -/
def freeTimers : Except Fault String := do
  let numbers : List Nat := (List.range (← timerCount config)).map fun before => before + 1
  let isFree (number : Nat) : Bool := !Json.isInt number (config.hardware .reservedTimer)
  let free := numbers.filter isFree
  return ", ".intercalate (free.map fun number => s!"Timer{number}")

def criticalLevels : Except Fault (List Number) :=
  (config.hardware .criticalLevels).items.mapM Config.number

/-- The greatest of some numbers, the first of equal ones; zero for none. -/
def greatest : List Number → Number
  | [] => .int 0
  | first :: rest => rest.foldl (fun best number => if best.less number then number else best) first

def timerFindings (free sourceId : String) (setup : PeripheralSetup) :
    Except Fault (List Finding) := do
  if Text.upperString setup.type == "TIMER" && isReserved config setup.unit then
    let reserved ← Config.display (config.hardware .reservedTimer)
    return [{
      severity := .error
      category := .compatibility
      message := s!"Timer{reserved} is reserved for mruby/c system tick and cannot be used - " ++
        s!"Use {free} instead"
      sourceId := sourceId
      line := setup.line }]
  else return []

/-- Whether a priority exists. -/
def isLevel (priority : Int) : Except Fault Bool :=
  if priority < 1 then .ok false
  else (Config.number (config.hardware .interruptLevels)).map (Number.int priority).atMost

def priorityFindings (critical : List Number) (firstFree : Number) (sourceId : String)
    (line : Option Int) (priority : Int) : Except Fault (List Finding) := do
  let levels := config.hardware .interruptLevels
  let finding (severity : Severity) (message : String) : List Finding :=
    [{ severity := severity
       category := .compatibility
       message := message
       sourceId := sourceId
       line := line }]
  if !(← isLevel config priority) then
    let shown ← Numeral.shown priority
    let last ← Config.display levels
    return finding .error
      s!"Interrupt priority {shown} is out of range - PIC32 supports priorities 1-{last}"
  else if critical.any fun level => level.same (.int priority) then
    let shown ← Numeral.shown priority
    let first ← firstFree.shown
    let last ← Config.display levels
    return finding .warning
      (s!"Interrupt priority {shown} may conflict with system interrupts - " ++
        s!"Use interrupt priorities {first}-{last} for application code")
  else return []

def setupFindings (free : String) (critical : List Number) (firstFree : Number)
    (sourceId : String) (setup : PeripheralSetup) : Except Fault (List Finding) := do
  let place := if setup.sourceId.isEmpty then sourceId else setup.sourceId
  let timer ← timerFindings config free place setup
  match setup.interruptPriority with
  | none => return timer
  | some priority =>
    return timer ++ (← priorityFindings config critical firstFree place setup.line priority)

/-- The finding on a pin of the console that someone holds. -/
private def consoleFinding? (held : List HeldPin) (sourceId : String) (pin : Pin) :
    Option Finding :=
  (held.find? fun holder => holder.pin == pin).map fun holder =>
    { severity := .warning
      category := .compatibility
      message := s!"Pin {pin.name} may conflict with console UART - Avoid using console UART " ++
        "pins for other peripherals unless specifically needed"
      sourceId := holder.sourceId.getD sourceId
      line := holder.line }

/-- Checks setups and held pins against what the firmware needs for itself. -/
def check (held : List HeldPin) (setups : List PeripheralSetup) (sourceId : String) :
    Except Fault (List Finding) := do
  let free ← freeTimers config
  let critical ← criticalLevels config
  let firstFree ← (greatest critical).add (.int 1)
  let setupNotes ← setups.mapM (setupFindings config free critical firstFree sourceId)
  let console ← (config.hardware .consolePins).items.mapM fun pin => Pin.ofValue pin.toValue
  return setupNotes.flatten ++ console.filterMap (consoleFinding? held sourceId)

end Firmware

end PinBudget
