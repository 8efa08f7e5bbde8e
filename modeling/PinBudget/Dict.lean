/-!
Dictionaries that keep the order in which their keys came.
-/
namespace PinBudget

/-- Keys with their values, in the order in which the keys were first set. -/
abbrev Dict (α β : Type) := List (α × β)

namespace Dict

variable {α β : Type} [BEq α]

def get? (dict : Dict α β) (key : α) : Option β :=
  List.lookup key dict

def has (dict : Dict α β) (key : α) : Bool :=
  (dict.get? key).isSome

/-- Sets the value of a key: in its place if the key is there, else at the end. -/
def set (dict : Dict α β) (key : α) (value : β) : Dict α β :=
  match dict with
  | [] => [(key, value)]
  | (other, old) :: rest =>
    if other == key then (other, value) :: rest else (other, old) :: set rest key value

def without (dict : Dict α β) (key : α) : Dict α β :=
  dict.filter fun entry => !(entry.1 == key)

/-- The dictionary of a list of pairs; a later value of a key replaces an earlier one. -/
def ofPairs (pairs : List (α × β)) : Dict α β :=
  pairs.foldl (fun dict pair => dict.set pair.1 pair.2) []

end Dict

end PinBudget
