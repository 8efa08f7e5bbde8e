import PinBudget.Number.Format
import PinBudget.Number.Numeral
import PinBudget.Text.Printable

/-!
Values of constructor arguments and how messages show them.
-/
namespace PinBudget

/-- A value as the source writes it. Names without a literal value stay names; tuples and mappings
do not come from source text, but other callers may hand them over. -/
inductive Value where
  | nil
  | bool (value : Bool)
  | int (value : Int)
  | float (value : Float)
  | str (value : String)
  | list (items : List Value)
  | tuple (items : List Value)
  | mapping (fields : List (String × Value))
  | unresolved (name : String)
  | pin (value : Pin)
  deriving Inhabited

namespace Value

/-- Whether the value is a name without a literal value. -/
def isUnresolved : Value → Bool
  | unresolved _ => true
  | _ => false

def isNil : Value → Bool
  | nil => true
  | _ => false

/-- Between brackets, with a comma after a single item where `single` asks for it. -/
private def bracketed (opening closing : String) (single : Bool) (items : List String) : String :=
  let body := ", ".intercalate items
  opening ++ body ++ (if single && items.length == 1 then "," else "") ++ closing

mutual

/-- The value in full detail: texts in quotes, names and pins with their type. -/
def shown : Value → Except Fault String
  | nil => .ok "None"
  | bool value => .ok (if value then "True" else "False")
  | int value => Numeral.shown value
  | float value => .ok (floatText value)
  | str value => .ok (Text.quotedString value)
  | list items => (shownAll items).map (bracketed "[" "]" false)
  | tuple items => (shownAll items).map (bracketed "(" ")" true)
  | mapping fields => (shownFields fields).map (bracketed "\x7b" "\x7d" false)
  | unresolved name => .ok ("Unresolved(name=" ++ Text.quotedString name ++ ")")
  | pin value =>
    .ok s!"Pin(port=<Port.{value.port.name}: '{value.port.name}'>, number={value.number})"

def shownAll : List Value → Except Fault (List String)
  | [] => .ok []
  | item :: rest =>
    match shown item with
    | .error fault => .error fault
    | .ok text => (shownAll rest).map (text :: ·)

def shownFields : List (String × Value) → Except Fault (List String)
  | [] => .ok []
  | (key, item) :: rest =>
    match shown item with
    | .error fault => .error fault
    | .ok text => (shownFields rest).map ((Text.quotedString key ++ ": " ++ text) :: ·)

end

/-- The value as running text: texts, names and pins bare, all else in full detail. -/
def text : Value → Except Fault String
  | str value => .ok value
  | unresolved name => .ok name
  | pin value => .ok value.name
  | value => value.shown

def items? : Value → Option (List Value)
  | list items | tuple items => some items
  | _ => none

/-- Whether a value, or an item of a list, is a name without a literal value. -/
def mentionsName (value : Value) : Bool :=
  match value.items? with
  | some items => items.any isUnresolved
  | none => value.isUnresolved

def texts : List Value → Except Fault (List String)
  | [] => .ok []
  | item :: rest =>
    match item.text with
    | .error fault => .error fault
    | .ok text => (texts rest).map (text :: ·)

/-- A list by the texts of its items; any other value by its own text. -/
def outline (value : Value) : Except Fault String :=
  match value.items? with
  | some items => (texts items).map (bracketed "[" "]" false)
  | none => value.text

end Value

end PinBudget
