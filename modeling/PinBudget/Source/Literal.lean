import PinBudget.Dict
import PinBudget.Source.Pattern
import PinBudget.Source.Scan
import PinBudget.Source.Value

/-!
Literal text of arguments: which shape a text has, and the value it stands for. Anything without a
known shape stands for itself.
-/
namespace PinBudget.Source

inductive Literal where
  | integer (negative : Bool) (digits : List Char)
  | hexadecimal (digits : List Char)
  | decimal (negative : Bool) (whole fraction : List Char)
  | quoted (content : List Char)
  | list (content : List Char)
  | symbol (name : List Char)
  | keyword (value : Value)
  | name (name : List Char)
  | raw (text : List Char)

/-- Digits only, at least one. -/
def areDigits (text : List Char) : Bool :=
  !text.isEmpty && text.all Text.isDecimal

/-- A sign and digits. -/
def integer? (text : List Char) : Option Literal :=
  let (negative, body) := Numeral.spanSign text
  if areDigits body then some (.integer negative body) else none

private def isHexDigit (c : Char) : Bool :=
  ('0' ≤ c && c ≤ '9') || ('a' ≤ c && c ≤ 'f') || ('A' ≤ c && c ≤ 'F')

/-- Hexadecimal digits behind their mark. -/
def hexadecimal? (text : List Char) : Option Literal :=
  match text with
  | '0' :: mark :: digits =>
    if (mark == 'x' || mark == 'X') && !digits.isEmpty && digits.all isHexDigit then
      some (.hexadecimal digits)
    else none
  | _ => none

/-- A sign and digits on both sides of a decimal point. -/
def decimal? (text : List Char) : Option Literal :=
  let (negative, body) := Numeral.spanSign text
  let (whole, rest) := body.span Text.isDecimal
  match rest with
  | '.' :: fraction =>
    if !whole.isEmpty && areDigits fraction then some (.decimal negative whole fraction) else none
  | _ => none

def interior (text : List Char) : List Char :=
  (text.drop 1).dropLast

def quoted? (text : List Char) : Option Literal :=
  match text with
  | first :: _ :: _ =>
    if isQuote first && text.getLast? == some first then some (.quoted (interior text)) else none
  | _ => none

def list? (text : List Char) : Option Literal :=
  if text.head? == some '[' && text.getLast? == some ']' then some (.list (interior text))
  else none

def symbol? (text : List Char) : Option Literal :=
  match text with
  | ':' :: body =>
    match Text.name? body with
    | some (name, []) => some (.symbol name)
    | _ => none
  | _ => none

/-- One of the three words with a value of their own. -/
def keyword? (text : List Char) : Option Literal :=
  if text == "true".toList then some (.keyword (.bool true))
  else if text == "false".toList then some (.keyword (.bool false))
  else if text == "nil".toList then some (.keyword .nil)
  else none

/-- A variable from end to end. -/
def wholeName? (text : List Char) : Option Literal :=
  match variableName? text with
  | some (name, []) => some (.name name)
  | _ => none

/-- The recognisers of all shapes, in the order in which they are tried. -/
def shapes : List (List Char → Option Literal) :=
  [integer?, hexadecimal?, decimal?, quoted?, list?, symbol?, keyword?, wholeName?]

/-- The shape of a text without blanks around it. The first shape that fits counts. -/
def Literal.ofText (text : List Char) : Literal :=
  (shapes.findSome? fun shape => shape text).getD (.raw text)

private def hexValue (c : Char) : Nat :=
  if c.isDigit then c.toNat - '0'.toNat else c.toUpper.toNat - 'A'.toNat + 10

def hexNumber (digits : List Char) : Nat :=
  digits.foldl (fun number c => 16 * number + hexValue c) 0

/-- How many texts are read inside one another, the items of a list inside the list. -/
def nestingLimit : Nat := 496

/-- What a name stands for where so many texts may still be read inside one another. -/
abbrev Resolve := Nat → List Char → Except Fault Value

/-- The value of literal text, with `resolve` deciding what names stand for, down to a depth. -/
def readWith (resolve : Resolve) : Nat → List Char → Except Fault Value
  | 0, _ => .error .nestedTooDeeply
  | depth + 1, text =>
    match Literal.ofText (Text.trim text) with
    | .integer negative digits =>
      (Numeral.ofDigits digits).map fun number => .int (Numeral.signed negative number)
    | .hexadecimal digits => .ok (.int (hexNumber digits))
    | .decimal negative whole fraction => .ok (.float (Numeral.double negative whole fraction))
    | .quoted content => .ok (.str (String.ofList content))
    | .list content => ((splitArguments content).mapM (readWith resolve depth)).map Value.list
    | .symbol name => .ok (.str (String.ofList name))
    | .keyword value => .ok value
    | .name name => resolve depth name
    | .raw text => .ok (.str (String.ofList text))

/-- A name stays a name. -/
def unresolved : Resolve := fun _ name => .ok (.unresolved (String.ofList name))

/-- The value of literal text in which names stay names. -/
def readValue (text : List Char) : Except Fault Value :=
  readWith unresolved nestingLimit text

/-- The right-hand sides of earlier assignments, by variable. -/
abbrev Bindings := Dict String String

/-- A bound name stands for its right-hand side, in which names stay names. -/
def resolveIn (bindings : Bindings) : Resolve := fun depth name =>
  match bindings.get? (String.ofList name) with
  | some right => readWith unresolved depth right.toList
  | none => unresolved depth name

/-- The value of literal text under bindings. -/
def readValueIn (bindings : Bindings) (text : List Char) : Except Fault Value :=
  readWith (resolveIn bindings) nestingLimit text

end PinBudget.Source
