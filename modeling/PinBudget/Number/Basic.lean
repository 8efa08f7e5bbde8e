import PinBudget.Fault
import PinBudget.Number.Format
import PinBudget.Number.Numeral

/-!
Numbers that are whole or floating, and keep their kind: a whole number stays exact until it meets
a floating one.
-/
namespace PinBudget

/-- A number that is either whole, of any size, or floating. -/
inductive Number where
  | int (value : Int)
  | float (value : Float)

namespace Number

/-- The nearest double of a whole number; one beyond the doubles is an overflow. -/
def doubleOfInt (n : Int) : Except Fault Float :=
  let x := nearestDouble n.natAbs 1
  if x.isInf then .error .overflow else .ok (withSign (n < 0) x)

def toFloat : Number → Except Fault Float
  | int n => doubleOfInt n
  | float x => .ok x

/-- The sum; exact for whole numbers. -/
def add : Number → Number → Except Fault Number
  | int a, int b => .ok (int (a + b))
  | a, b => do return float ((← a.toFloat) + (← b.toFloat))

def mul : Number → Number → Except Fault Number
  | int a, int b => .ok (int (a * b))
  | a, b => do return float ((← a.toFloat) * (← b.toFloat))

/-- How a whole number compares with a floating one; nothing compares with an undefined one. -/
def compareMixed (n : Int) (x : Float) : Option Ordering :=
  match magnitude x with
  | .finite value => some (value.compareInt n)
  | .infinite negative => some (if negative then .gt else .lt)
  | .undefined => none

/-- Whether the first number is below the second, compared exactly. -/
def less : Number → Number → Bool
  | int a, int b => a < b
  | float x, float y => x < y
  | int n, float x => compareMixed n x == some .lt
  | float x, int n => compareMixed n x == some .gt

/-- Whether two numbers are equal as numbers, whatever their kinds. -/
def same : Number → Number → Bool
  | int a, int b => a == b
  | float x, float y => x == y
  | int n, float x | float x, int n => compareMixed n x == some .eq

/-- Whether the first number is below the second or equal to it; an undefined one is neither. -/
def atMost (first second : Number) : Bool :=
  first.less second || first.same second

def truncate : Number → Except Fault Int
  | int n => .ok n
  | float x =>
    match magnitude x with
    | .finite value => .ok value.truncate
    | .infinite _ => .error .overflow
    | .undefined => .error .notANumber

def quotient (x : Float) (divisor : Number) : Except Fault Float :=
  match divisor.toFloat with
  | .error fault => .error fault
  | .ok y => if y == 0.0 then .error .divisionByZero else .ok (x / y)

/-- The number in full: a whole number in decimal, unless it has too many digits to write, and a
floating one in the form that reads back. -/
def shown : Number → Except Fault String
  | int n => Numeral.shown n
  | float x => .ok (floatText x)

/-- The sum of several amounts, added to a start from left to right. -/
def sum (start : Number) : List Number → Except Fault Number
  | [] => .ok start
  | amount :: rest =>
    match start.add amount with
    | .error fault => .error fault
    | .ok total => sum total rest

def general (number : Number) : Except Fault String :=
  number.toFloat.map generalText

end Number

end PinBudget
