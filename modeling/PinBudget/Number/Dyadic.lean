/-!
Doubles as exact numbers: a sign and a natural multiple of a power of two. Reading a ratio as the
nearest double and comparing a double with an integer are exact arithmetic on these.
-/
namespace PinBudget

/-- A sign and a natural multiple of a power of two. -/
structure Dyadic where
  negative : Bool
  mantissa : Nat
  exponent : Int
  deriving DecidableEq, Repr

namespace Dyadic

/-- The factors of a quotient equal to the absolute value. -/
def ratio (d : Dyadic) : Nat × Nat :=
  match d.exponent with
  | .ofNat up => (d.mantissa * Nat.pow 2 up, 1)
  | .negSucc down => (d.mantissa, Nat.pow 2 (down + 1))

def truncate (d : Dyadic) : Int :=
  let (numerator, denominator) := d.ratio
  let whole : Int := (numerator / denominator : Nat)
  if d.negative then -whole else whole

/-- How an integer compares with the exact value. -/
def compareInt (n : Int) (d : Dyadic) : Ordering :=
  let (numerator, denominator) := d.ratio
  let signed : Int := if d.negative then -(numerator : Int) else numerator
  compare (n * denominator) signed

end Dyadic

/-- The quotient of two natural numbers, rounded to the nearest integer; a tie goes to the even
neighbour. -/
def roundedQuotient (numerator denominator : Nat) : Nat :=
  let whole := numerator / denominator
  let twice := 2 * (numerator % denominator)
  if twice < denominator then whole
  else if denominator < twice then whole + 1
  else if whole % 2 == 0 then whole else whole + 1

/-- What the bits of a double stand for. -/
inductive Magnitude where
  | finite (value : Dyadic)
  | infinite (negative : Bool)
  | undefined
  deriving DecidableEq, Repr

/-- The exact meaning of a double. -/
def magnitude (x : Float) : Magnitude :=
  let bits := x.toBits.toNat
  let negative := bits / Nat.pow 2 63 == 1
  let exponent : Nat := bits / Nat.pow 2 52 % Nat.pow 2 11
  let fraction := bits % Nat.pow 2 52
  if exponent == 2047 then
    if fraction == 0 then .infinite negative else .undefined
  else if exponent == 0 then .finite ⟨negative, fraction, -1074⟩
  else .finite ⟨negative, Nat.pow 2 52 + fraction, Int.ofNat exponent - 1075⟩

/-- The double with the opposite sign bit where `negative` is set. -/
def withSign (negative : Bool) (x : Float) : Float :=
  if negative then -x else x

/-- The bits of positive infinity; every finite double has smaller ones. -/
def infinityBits : Nat := 2047 * Nat.pow 2 52

/-- The binary exponent of a positive quotient: `2 ^ e` is at most the quotient, `2 ^ (e + 1)` is
above it. -/
def floorLog (numerator denominator : Nat) : Int :=
  let guess : Int := (numerator.log2 : Int) - denominator.log2
  let reached : Bool := match guess with
    | .ofNat up => denominator * Nat.pow 2 up ≤ numerator
    | .negSucc down => denominator ≤ numerator * Nat.pow 2 (down + 1)
  if reached then guess else guess - 1

/-- The double nearest to a quotient of natural numbers; ties go to the even mantissa, and what is
too large is infinite. -/
def nearestDouble (numerator denominator : Nat) : Float :=
  if numerator == 0 then 0.0
  else
    let unit : Int := max (floorLog numerator denominator - 52) (-1074)
    let mantissa := match unit with
      | .ofNat up => roundedQuotient numerator (denominator * Nat.pow 2 up)
      | .negSucc down => roundedQuotient (numerator * Nat.pow 2 (down + 1)) denominator
    let bits := (unit + 1074).toNat * Nat.pow 2 52 + mantissa
    Float.ofBits (UInt64.ofNat (min bits infinityBits))

end PinBudget
