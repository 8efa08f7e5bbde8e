import PinBudget.Source.Value
import PinBudget.Text.Blank
import PinBudget.Text.Digit

/-!
Which values name a physical pin: a pin itself, a text such as `B3` or `RB3`, a number of the flat
numbering, or a pair of port number and pin number.
-/
namespace PinBudget

namespace Port

/-- The port of a letter in either case. -/
def ofLetter? (c : Char) : Option Port :=
  if c == 'A' || c == 'a' then some a else if c == 'B' || c == 'b' then some b else none

end Port

namespace Pin

/-- A text of the shape of a pin name: an optional register letter, a port letter in either case
and decimal digits. -/
def spelling? (text : List Char) : Option (Port × List Char) :=
  let body := match text with
    | c :: rest => if c == 'R' || c == 'r' then rest else text
    | [] => []
  match body with
  | [] => none
  | letter :: digits =>
    match Port.ofLetter? letter with
    | none => none
    | some port =>
      if !digits.isEmpty && digits.all Text.isDecimal then some (port, digits) else none

def ofText (text : String) : Except Fault Pin :=
  match spelling? (Text.trim text.toList) with
  | none => .error (.pin (.malformedText text))
  | some (port, digits) =>
    match Numeral.ofDigits digits with
    | .error fault => .error fault
    | .ok number =>
      match ofNumber? port number with
      | some pin => .ok pin
      | none => .error (.pin (.textBeyondPort text port))

def ofIndex (index : Int) : Except Fault Pin :=
  match ofFlatIndex? index with
  | some pin => .ok pin
  | none =>
    match Numeral.shown index with
    | .ok _ => .error (.pin (.numberBeyondBoard index))
    | .error fault => .error fault

/-- Stops with an error about a value, once the value can be shown. -/
def refuse (value : Value) (error : String → PinError) : Except Fault Pin :=
  match value.shown with
  | .ok text => .error (.pin (error text))
  | .error fault => .error fault

def pair? : List Value → Option (Nat × Nat)
  | [.int port, .int number] =>
    if 0 ≤ port ∧ 0 ≤ number then some (port.toNat, number.toNat) else none
  | _ => none

/-- The pin that a pair of port number and pin number names. -/
def ofItems (items : List Value) : Except Fault Pin :=
  match pair? items with
  | none => refuse (.list items) .malformedPair
  | some (portNumber, number) =>
    match Port.ofNumber? portNumber with
    | none => refuse (.list items) .pairWithoutPort
    | some port =>
      match ofNumber? port number with
      | some pin => .ok pin
      | none => refuse (.list items) .pairBeyondPort

def ofValue (value : Value) : Except Fault Pin :=
  match value with
  | .pin pin => .ok pin
  | .str text => ofText text
  | .int index => ofIndex index
  | .list items | .tuple items => ofItems items
  | .nil | .bool _ | .float _ | .mapping _ | .unresolved _ => refuse value .unsupported

/-- The pin with a number on a port. -/
def ofPortNumber (port : Port) (number : Int) : Except Fault Pin :=
  if number < 0 then .error (.pin (.numberBeyondPort port number))
  else
    match ofNumber? port number.toNat with
    | some pin => .ok pin
    | none => .error (.pin (.numberBeyondPort port number))

end Pin

end PinBudget
