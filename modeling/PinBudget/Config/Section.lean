import PinBudget.Json.Basic

/-!
Sections of settings. A section gives every key of its kind a value; an override names some keys and
leaves the others as they are.
-/
namespace PinBudget

/-- Keys of a section: all of them, their names in configuration files, and which of them are
sequences, so that any value with items is read as a list. -/
class SettingKey (K : Type) where
  all : List K
  label : K → String
  isSequence : K → Bool := fun _ => false

/-- A value for every key. -/
abbrev Section (K : Type) := K → Json

namespace Section

variable {K : Type} [DecidableEq K] [SettingKey K]

def key? (name : String) : Option K :=
  (SettingKey.all (K := K)).find? fun key => SettingKey.label key == name

def set (settings : Section K) (key : K) (value : Json) : Section K := fun other =>
  if other = key then value else settings other

/-- A value as a list of its items: the characters of a text and the keys of an object count. -/
def sequence : Json → Except Fault Json
  | .arr items => .ok (.arr items)
  | .str text => .ok (.arr (text.toList.map fun c => .str (String.singleton c)))
  | .obj fields => .ok (.arr (fields.map fun field => .str field.1))
  | .null | .bool _ | .number _ => .error .wrongType

def setNamed (settings : Section K) (field : String × Json) : Except Fault (Section K) :=
  match key? (K := K) field.1 with
  | none => .ok settings
  | some key =>
    if SettingKey.isSequence key then (sequence field.2).map (settings.set key)
    else .ok (settings.set key field.2)

/-- Names in order, each once. -/
def sortedNames (names : List String) : List String :=
  (names.mergeSort fun first second => first ≤ second).eraseDups

def checkNames (scope : String) (known : String → Bool) (names : List String) :
    Except Fault Unit :=
  match sortedNames (names.filter fun name => !known name) with
  | [] => .ok ()
  | unknown => .error (.unknownSettings scope unknown)

private def text? : Json → Option String
  | .str text => some text
  | _ => none

/-- What is wrong with overrides that are no object. Where they at least list names, unknown names
come first. -/
private def notFields (scope : String) (known : String → Bool) (overrides : Json) : Fault :=
  let names : Option (List String) := match overrides with
    | .str text => some (text.toList.map String.singleton)
    | .arr items => items.mapM text?
    | _ => none
  match names with
  | none => .wrongType
  | some names =>
    match checkNames scope known names with
    | .error fault => fault
    | .ok () => .noSuchOperation

/-- The section with some keys replaced. -/
def override (scope : String) (settings : Section K) (overrides : Json) :
    Except Fault (Section K) :=
  let known (name : String) : Bool := (key? (K := K) name).isSome
  match overrides with
  | .obj fields =>
    match checkNames scope known (fields.map Prod.fst) with
    | .error fault => .error fault
    | .ok () => fields.foldlM setNamed settings
  | other => .error (notFields scope known other)

def document (settings : Section K) : Json :=
  .obj ((SettingKey.all (K := K)).map fun key => (SettingKey.label key, settings key))

end Section

end PinBudget
