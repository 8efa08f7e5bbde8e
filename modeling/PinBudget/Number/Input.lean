import PinBudget.Number.Numeral

/-!
Numbers as users type them: blanks around them, a sign, and underscores between digits.
-/
namespace PinBudget.Numeral

def unframed (text : List Char) : List Char :=
  ((text.dropWhile isMargin).reverse.dropWhile isMargin).reverse

/-- The text without its underscores, each of which must stand between two digits. -/
private def joined? (before : Option Char) : List Char → Option (List Char)
  | [] => some []
  | '_' :: rest =>
    if before.any Text.isDecimal && rest.head?.any Text.isDecimal then joined? none rest else none
  | c :: rest => (joined? (some c) rest).map (c :: ·)

def readInt? (text : List Char) : Option Int :=
  let (negative, body) := spanSign (unframed text)
  match joined? none body with
  | none => none
  | some digits =>
    if digits.isEmpty || !digits.all Text.isDecimal then none
    else
      match ofDigits digits with
      | .ok number => some (signed negative number)
      | .error _ => none

/-- The words for numbers beyond all digits. -/
private def word? (negative : Bool) (text : List Char) : Option Float :=
  let word := text.map Char.toLower
  if word == "inf".toList || word == "infinity".toList then some (withSign negative (1.0 / 0.0))
  else if word == "nan".toList then some (0.0 / 0.0)
  else none

/-- A power of ten behind its letter, up to the end of the text. -/
private def exponent? (text : List Char) : Option Int :=
  match text with
  | [] => some 0
  | letter :: rest =>
    let (negative, digits) := spanSign rest
    if (letter == 'e' || letter == 'E') && !digits.isEmpty && digits.all Text.isDecimal then
      some (signed negative (Text.decimalNumber digits))
    else none

/-- Digits with a point and a power of ten. -/
private def decimal? (negative : Bool) (text : List Char) : Option Float :=
  let (whole, rest) := text.span Text.isDecimal
  let (fraction, tail) := match rest with
    | '.' :: behind => behind.span Text.isDecimal
    | _ => ([], rest)
  if whole.isEmpty && fraction.isEmpty then none
  else
    (exponent? tail).map fun exponent =>
      scaled negative (whole ++ fraction) (exponent - fraction.length)

def readFloat? (text : List Char) : Option Float :=
  let (negative, body) := spanSign (unframed text)
  match word? negative body with
  | some x => some x
  | none => (joined? none body).bind (decimal? negative)

end PinBudget.Numeral
