import PinBudget.Json.Basic

/-!
Settings as quantities. Numbers are added and multiplied, and a truth value counts as one or zero;
texts and lists are joined and repeated. Everything else is of the wrong type.
-/
namespace PinBudget.Config

def number : Json → Except Fault Number
  | .number value => .ok value
  | .bool value => .ok (.int (if value then 1 else 0))
  | .null | .str _ | .arr _ | .obj _ => .error .wrongType

private def whole : Json → Except Fault Int
  | .number (.int n) => .ok n
  | .bool value => .ok (if value then 1 else 0)
  | .null | .number (.float _) | .str _ | .arr _ | .obj _ => .error .wrongType

/-- Repetitions stay below this number. -/
private def countLimit : Int := (Nat.pow 2 63 : Nat)

/-- The items that fit into memory. -/
def memoryLimit : Int := (Nat.pow 2 32 : Nat)

/-- Items repeated a number of times; a number below one gives none. `excess` is the fault of a
result that is longer than any sequence. -/
private def repeated {α : Type} (excess : Fault) (items : List α) (times : Json) :
    Except Fault (List α) := do
  let count ← whole times
  let size := items.length * count
  if countLimit ≤ count || count < -countLimit then throw .overflow
  else if items.isEmpty then return []
  else if countLimit ≤ size then throw excess
  else if memoryLimit < size then throw .outOfMemory
  else return (List.replicate count.toNat items).flatten

def product : Json → Json → Except Fault Json
  | .str text, times | times, .str text =>
    (repeated .overflow text.toList times).map fun chars => .str (String.ofList chars)
  | .arr items, times | times, .arr items => (repeated .outOfMemory items times).map .arr
  | first, second => do return .number (← (← number first).mul (← number second))

def sum : Json → Json → Except Fault Json
  | .str first, .str second => .ok (.str (first ++ second))
  | .arr first, .arr second => .ok (.arr (first ++ second))
  | first, second => do return .number (← (← number first).add (← number second))

end PinBudget.Config
