import PinBudget.Number.Dyadic

/-!
Decimal digits of exact numbers: to a number of places, to a number of significant digits, and the
fewest digits that read back.
-/
namespace PinBudget

/-- A decimal number `0.d₁d₂… · 10 ^ point`: its digits as one natural number with `count` digits,
and the place of the decimal point counted from the front of the digits. -/
structure DecimalDigits where
  digits : Nat
  count : Nat
  point : Int
  deriving DecidableEq, Repr

def DecimalDigits.chars (d : DecimalDigits) : List Char :=
  let shown := Nat.toDigits 10 d.digits
  List.replicate (d.count - shown.length) '0' ++ shown

/-- The digits without the zeros at their end; at least one digit stays. -/
def DecimalDigits.trimmed (d : DecimalDigits) : List Char :=
  match (d.chars.reverse.dropWhile (· == '0')).reverse with
  | [] => ['0']
  | kept => kept

/-- The decimal exponent of a positive quotient: `10 ^ e` is at most the quotient and
`10 ^ (e + 1)` is above it. The binary lengths bound it from above, at most two too high. -/
def decimalExponent (numerator denominator : Nat) : Int :=
  let bits : Int := (numerator.log2 : Int) - denominator.log2
  let guess : Int := (bits + 1) * 30103 / 100000 + 1
  let reached (e : Int) : Bool := match e with
    | .ofNat up => denominator * Nat.pow 10 up ≤ numerator
    | .negSucc down => denominator ≤ numerator * Nat.pow 10 (down + 1)
  if reached guess then guess else if reached (guess - 1) then guess - 1 else guess - 2

/-- A quotient divided by a power of ten, as the factors of a quotient. -/
private def scaledBy (numerator denominator : Nat) (exponent : Int) : Nat × Nat :=
  match exponent with
  | .ofNat up => (numerator, denominator * Nat.pow 10 up)
  | .negSucc down => (numerator * Nat.pow 10 (down + 1), denominator)

/-- A positive quotient to `count` significant digits, a tie going to the even neighbour. -/
def significantDigits (count numerator denominator : Nat) : DecimalDigits :=
  let exponent := decimalExponent numerator denominator
  let (top, bottom) := scaledBy numerator denominator (exponent - (count - 1 : Nat))
  let rounded := roundedQuotient top bottom
  if rounded == Nat.pow 10 count then ⟨Nat.pow 10 (count - 1), count, exponent + 2⟩
  else ⟨rounded, count, exponent + 1⟩

/-- The reals that round to a positive double, as twice the ends of the interval over a common
denominator: the double is `value / scale`, and the ends are `low / (2 * scale)` and
`high / (2 * scale)`; they belong to it where `closed` is set. -/
private structure RoundingInterval where
  value : Nat
  scale : Nat
  low : Nat
  high : Nat
  closed : Bool

/-- The interval of a positive double. Below a power of two the lower neighbour is only half as
far away. -/
private def roundingInterval (d : Dyadic) : RoundingInterval :=
  let narrow := d.mantissa == Nat.pow 2 52 && d.exponent != -1074
  let (step, scale) := match d.exponent with
    | .ofNat up => (Nat.pow 2 up * 2, 2)
    | .negSucc down => (2, Nat.pow 2 (down + 1) * 2)
  let value := d.mantissa * step
  ⟨value, scale, 2 * value - (if narrow then step / 2 else step), 2 * value + step,
    d.mantissa % 2 == 0⟩

/-- Whether the decimal `digits · 10 ^ exponent` reads back as the double of the interval. -/
private def RoundingInterval.contains (r : RoundingInterval) (digits : Nat) (exponent : Int) :
    Bool :=
  let (top, bottom) : Nat × Nat := match exponent with
    | .ofNat up => (digits * Nat.pow 10 up, 1)
    | .negSucc down => (digits, Nat.pow 10 (down + 1))
  let point := top * 2 * r.scale
  let low := r.low * bottom
  let high := r.high * bottom
  if r.closed then low ≤ point && point ≤ high else low < point && point < high

/-- The decimal with `count` digits nearest to the double, if a decimal with so few digits reads
back: of the two neighbours on that grid those inside the interval count, and the nearer wins. -/
private def RoundingInterval.withDigits? (r : RoundingInterval) (exponent : Int) (count : Nat) :
    Option DecimalDigits :=
  let unit := exponent - (count - 1 : Nat)
  let (top, bottom) := scaledBy r.value r.scale unit
  let below := top / bottom
  let nearest := roundedQuotient top bottom
  let other := if nearest == below then below + 1 else below
  let chosen :=
    if r.contains nearest unit then some nearest
    else if r.contains other unit then some other else none
  chosen.map fun digits =>
    if digits == Nat.pow 10 count then ⟨Nat.pow 10 (count - 1), count, exponent + 2⟩
    else ⟨digits, count, exponent + 1⟩

/-- The fewest digits that read back as a positive double, and of those the nearest ones. Seventeen
digits always read back. -/
def shortestDigits (d : Dyadic) : DecimalDigits :=
  let interval := roundingInterval d
  let exponent := decimalExponent interval.value interval.scale
  let found := (List.range 17).findSome? fun fewer => interval.withDigits? exponent (fewer + 1)
  found.getD (significantDigits 17 interval.value interval.scale)

/-- A quotient rounded to a number of decimal places, counted in units of the last place. -/
def fixedPlaces (places numerator denominator : Nat) : Nat :=
  roundedQuotient (numerator * Nat.pow 10 places) denominator

end PinBudget
