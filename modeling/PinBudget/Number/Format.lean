import PinBudget.Number.Digits

/-!
The written forms of floating-point numbers: the form that reads back, the general form with six
digits, a fixed number of places, and rounding to places.
-/
namespace PinBudget

private def signText (negative : Bool) : List Char :=
  if negative then ['-'] else []

/-- An exponent with its sign and at least two digits. -/
private def exponentText (exponent : Int) : List Char :=
  let digits := Nat.toDigits 10 exponent.natAbs
  (if exponent < 0 then '-' else '+') :: (List.replicate (2 - digits.length) '0' ++ digits)

/-- Digits in positional notation around the decimal point; no point is written after the last
digit unless `keepPoint` asks for a zero there. -/
private def positional (digits : List Char) (point : Int) (keepPoint : Bool) : List Char :=
  match point with
  | .negSucc before => '0' :: '.' :: (List.replicate (before + 1) '0' ++ digits)
  | .ofNat 0 => '0' :: '.' :: digits
  | .ofNat whole =>
    if digits.length ≤ whole then
      digits ++ List.replicate (whole - digits.length) '0' ++ (if keepPoint then ['.', '0'] else [])
    else digits.take whole ++ '.' :: digits.drop whole

private def scientific (digits : List Char) (exponent : Int) : List Char :=
  let (first, others) := digits.splitAt 1
  first ++ (if others.isEmpty then [] else '.' :: others) ++ 'e' :: exponentText exponent

/-- The fewest digits that read back; positional from `0.0001` up to `10 ^ 16`, where a whole number
keeps a zero behind its point, and scientific beyond. -/
def floatText (x : Float) : String :=
  match magnitude x with
  | .undefined => "nan"
  | .infinite negative => if negative then "-inf" else "inf"
  | .finite value =>
    if value.mantissa == 0 then if value.negative then "-0.0" else "0.0"
    else
      let shortest := shortestDigits value
      let digits := shortest.trimmed
      let exponent := shortest.point - 1
      let body :=
        if -4 ≤ exponent && exponent < 16 then positional digits shortest.point true
        else scientific digits exponent
      String.ofList (signText value.negative ++ body)

/-- Six significant digits without the zeros at their end; positional from `0.0001` up to a
million. -/
def generalText (x : Float) : String :=
  match magnitude x with
  | .undefined => "nan"
  | .infinite negative => if negative then "-inf" else "inf"
  | .finite value =>
    if value.mantissa == 0 then if value.negative then "-0" else "0"
    else
      let (numerator, denominator) := value.ratio
      let rounded := significantDigits 6 numerator denominator
      let digits := rounded.trimmed
      let exponent := rounded.point - 1
      let body :=
        if -4 ≤ exponent && exponent < 6 then positional digits rounded.point false
        else scientific digits exponent
      String.ofList (signText value.negative ++ body)

def fixedText (places : Nat) (x : Float) : String :=
  match magnitude x with
  | .undefined => "nan"
  | .infinite negative => if negative then "-inf" else "inf"
  | .finite value =>
    let (numerator, denominator) := value.ratio
    let shown := Nat.toDigits 10 (fixedPlaces places numerator denominator)
    let padded := List.replicate (places + 1 - shown.length) '0' ++ shown
    let whole := padded.length - places
    String.ofList (signText value.negative ++ padded.take whole ++ '.' :: padded.drop whole)

/-- The double nearest to the value rounded to a number of places. The sign stays, also that of a
zero. -/
def roundToPlaces (places : Nat) (x : Float) : Float :=
  match magnitude x with
  | .undefined | .infinite _ => x
  | .finite value =>
    let (numerator, denominator) := value.ratio
    withSign value.negative
      (nearestDouble (fixedPlaces places numerator denominator) (Nat.pow 10 places))

end PinBudget
