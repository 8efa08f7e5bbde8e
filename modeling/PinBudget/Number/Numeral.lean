import PinBudget.Fault
import PinBudget.Number.Dyadic
import PinBudget.Text.Blank
import PinBudget.Text.Digit
import PinBudget.Text.Printable

/-!
Reading and writing whole numbers as decimal text. Both directions refuse more digits than the
limit, so that no text makes the work grow without bound.
-/
namespace PinBudget.Numeral

/-- The number that decimal digits stand for. Leading zeros count toward the limit. -/
def ofDigits (digits : List Char) : Except Fault Nat :=
  if Fault.digitLimit < digits.length then .error (.numeralTooLong digits.length)
  else .ok (Text.decimalNumber digits)

def spanSign : List Char → Bool × List Char
  | '-' :: rest => (true, rest)
  | '+' :: rest => (false, rest)
  | text => (false, text)

def signed (negative : Bool) (number : Nat) : Int :=
  if negative then -(number : Int) else number

/-- Blanks that may stand around a number: all but the four record separators of ASCII. -/
def isMargin (c : Char) : Bool :=
  Text.isBlank c && !(28 ≤ c.toNat && c.toNat ≤ 31)

/-- Reads a text made of digit signs and blanks around them. The digits at its front count toward
the limit before anything behind them is looked at; a sign that is no decimal digit is malformed. -/
def ofDigitSigns (text : List Char) : Except Fault Int :=
  let (digits, rest) := (text.dropWhile isMargin).span Text.isDecimal
  match ofDigits digits with
  | .error fault => .error fault
  | .ok number =>
    if !digits.isEmpty && rest.all isMargin then .ok number
    else .error (.malformedNumeral (String.ofList ((Text.quoted text).take 200)))

/-- The least natural number with too many digits to write. -/
def bound : Nat := Nat.pow 10 Fault.digitLimit

/-- A whole number in decimal, unless it has too many digits. -/
def shown (n : Int) : Except Fault String :=
  if n.natAbs < bound then .ok (toString n) else .error .integerTooLong

/-- The double nearest to digits with a decimal point among them. -/
def double (negative : Bool) (whole fraction : List Char) : Float :=
  withSign negative
    (nearestDouble (Text.decimalNumber (whole ++ fraction)) (Nat.pow 10 fraction.length))

/-- The double nearest to digits scaled by a power of ten. Exponents far outside the doubles are
settled without computing the power. -/
def scaled (negative : Bool) (digits : List Char) (exponent : Int) : Float :=
  let whole := Text.decimalNumber digits
  let leading := digits.takeWhile fun c => Text.decimalValue? c == some 0
  let reach := exponent + digits.length - leading.length
  let size :=
    if whole == 0 || reach < -400 then 0.0
    else if 400 < reach then 1.0 / 0.0
    else match exponent with
      | .ofNat up => nearestDouble (whole * Nat.pow 10 up) 1
      | .negSucc down => nearestDouble whole (Nat.pow 10 (down + 1))
  withSign negative size

end PinBudget.Numeral
