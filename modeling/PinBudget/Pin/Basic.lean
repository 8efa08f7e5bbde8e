/-!
The physical pins of the board: two ports, five pins on port A and sixteen on port B.
-/
namespace PinBudget

inductive Port where
  | a
  | b
  deriving DecidableEq, Repr

namespace Port

/-- The letter that names the port. -/
def name : Port → String
  | a => "A"
  | b => "B"

def size : Port → Nat
  | a => 5
  | b => 16

/-- The number by which the firmware knows the port. -/
def number : Port → Nat
  | a => 1
  | b => 2

/-- Both ports, A first. -/
def all : List Port := [a, b]

def ofName? (name : String) : Option Port :=
  all.find? fun port => port.name == name

def ofNumber? (number : Int) : Option Port :=
  all.find? fun port => (port.number : Int) == number

/-- The port and its pin numbers, as messages show them. -/
def rangeText (port : Port) : String :=
  s!"{port.name}(0-{port.size - 1})"

end Port

/-- A physical pin: a port and the number of one of its pins. -/
structure Pin where
  port : Port
  number : Nat
  inRange : number < port.size := by decide
  deriving DecidableEq, Repr

namespace Pin

/-- The pin with a number on a port, if the port has that many. -/
def ofNumber? (port : Port) (number : Nat) : Option Pin :=
  if inRange : number < port.size then some ⟨port, number, inRange⟩ else none

/-- The pin's name, such as `B3`. -/
def name (pin : Pin) : String :=
  s!"{pin.port.name}{pin.number}"

/-- The name of the pin's register, such as `RB3`. -/
def register (pin : Pin) : String :=
  s!"R{pin.port.name}{pin.number}"

/-- The pin's place in the flat numbering that counts port A first. -/
def flatIndex (pin : Pin) : Nat :=
  match pin.port with
  | .a => pin.number
  | .b => pin.number + Port.a.size

def ofPort (port : Port) : List Pin :=
  (List.finRange port.size).map fun number => ⟨port, number.val, number.isLt⟩

def all : List Pin :=
  Port.all.flatMap ofPort

def count : Nat := Port.a.size + Port.b.size

/-- The pin at a place of the flat numbering. -/
def ofFlatIndex? (index : Int) : Option Pin :=
  all.find? fun pin => (pin.flatIndex : Int) == index

def ofName? (name : String) : Option Pin :=
  all.find? fun pin => pin.name == name

def sort (pins : List Pin) : List Pin :=
  pins.mergeSort fun first second => first.flatIndex ≤ second.flatIndex

end Pin

end PinBudget
