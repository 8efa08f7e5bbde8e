import PinBudget.Config.Basic
import PinBudget.Source.Value

/-!
Settings where a pin, a message or a comparison needs them. A setting keeps the JSON value that it
was given, so each use says what it makes of that value.
-/
namespace PinBudget

namespace Json

mutual

/-- The value that a document stands for. -/
def toValue : Json → Value
  | null => .nil
  | bool value => .bool value
  | number (.int n) => .int n
  | number (.float x) => .float x
  | str text => .str text
  | arr items => .list (toValues items)
  | obj fields => .mapping (toFields fields)

def toValues : List Json → List Value
  | [] => []
  | item :: rest => toValue item :: toValues rest

def toFields : List (String × Json) → List (String × Value)
  | [] => []
  | (key, item) :: rest => (key, toValue item) :: toFields rest

end

/-- The items of a sequence; anything else has none. -/
def items : Json → List Json
  | arr items => items
  | null | bool _ | number _ | str _ | obj _ => []

/-- Whether the document is a number equal to a whole number; a truth value counts as one or
zero. -/
def isInt (n : Int) (json : Json) : Bool :=
  match json with
  | number value => value.same (.int n)
  | bool value => n == (if value then 1 else 0)
  | null | str _ | arr _ | obj _ => false

end Json

namespace Config

/-- A setting as messages show it. -/
def display (setting : Json) : Except Fault String :=
  setting.toValue.text

def above (value : Number) (setting : Json) : Except Fault Bool :=
  (number setting).map fun limit => limit.less value

def below (value : Number) (setting : Json) : Except Fault Bool :=
  (number setting).map value.less

/-- So many times a setting, where that is a number. -/
def times (count : Nat) (setting : Json) : Except Fault Number :=
  match number setting with
  | .error fault => .error fault
  | .ok value => Number.mul (.int count) value

end Config

end PinBudget
