import PinBudget.Dict
import PinBudget.Peripheral.Kind
import PinBudget.Source.Value
import PinBudget.Text.Digit

/-!
Usage events: one for each peripheral construction found in a source.
-/
namespace PinBudget

/-- A construction of a peripheral, with the variable that holds it and the statement as written. -/
structure Event where
  kind : Kind
  sourceId : String
  line : Int
  holder : Option String := none
  positional : List Value := []
  named : Dict String Value := []
  raw : String := ""

/-- A method call on a variable that holds a peripheral. -/
structure MethodCall where
  kind : Kind
  receiver : String
  method : String
  sourceId : String
  line : Int
  deriving DecidableEq, Repr

/-- The whole number that a value stands for: an integer, or a text of digits. -/
def Value.asInt? : Value → Except Fault (Option Int)
  | .int n => .ok (some n)
  | .str text =>
    let body := Text.trim text.toList
    if !body.isEmpty && body.all Text.isDigitSign then
      (Numeral.ofDigitSigns text.toList).map some
    else .ok none
  | _ => .ok none

namespace Event

/-- The positional argument at an index, else the argument with a name. -/
def argument (event : Event) (index : Option Nat) (name : Option String) : Value :=
  match index.bind fun place => event.positional[place]? with
  | some value => value
  | none => (name.bind event.named.get?).getD .nil

/-- The argument that an index or a name asks for, as `argument` does. A negative index counts from
the end and has no name to fall back on. -/
def argumentFrom (event : Event) (index : Option Int) (name : Option String) :
    Except Fault Value :=
  match index with
  | none => .ok (event.argument none name)
  | some place =>
    if 0 ≤ place then .ok (event.argument (some place.toNat) name)
    else
      match event.positional.reverse[place.natAbs - 1]? with
      | some value => .ok value
      | none => .error .missingPosition

/-- The value of a named argument; an absent one is nil. -/
def namedValue (event : Event) (name : String) : Value :=
  (event.named.get? name).getD .nil

/-- The unit as written: the argument of that name, or the number that a UART begins with. Nil where
there is none. -/
def unitArgument (event : Event) : Except Fault Value :=
  let unit := event.namedValue "unit"
  if !unit.isNil then .ok unit
  else
    match event.kind, event.positional with
    | .uart, first :: _ =>
      first.asInt?.map fun number => if number.isSome then first else .nil
    | _, _ => .ok .nil

/-- The unit's number. Texts of digits count; anything else is no unit. -/
def unit (event : Event) : Except Fault (Option Int) :=
  match event.unitArgument with
  | .error fault => .error fault
  | .ok value => value.asInt?

/-- The interrupt priority under either of its names. -/
def interruptPriority (event : Event) : Except Fault (Option Int) :=
  match (event.namedValue "interrupt_priority").asInt? with
  | .error fault => .error fault
  | .ok (some priority) => .ok (some priority)
  | .ok none => (event.namedValue "priority").asInt?

end Event

end PinBudget
