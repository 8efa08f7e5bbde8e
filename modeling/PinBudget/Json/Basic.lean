import PinBudget.Dict
import PinBudget.Number.Basic
import PinBudget.Number.Numeral

/-!
JSON documents. Objects keep the order of their fields, and numbers keep their kind.
-/
namespace PinBudget

/-- A JSON document. -/
inductive Json where
  | null
  | bool (value : Bool)
  | number (value : Number)
  | str (value : String)
  | arr (items : List Json)
  | obj (fields : List (String × Json))

namespace Json

instance : Inhabited Json := ⟨null⟩

def int (n : Int) : Json := number (.int n)

def nat (n : Nat) : Json := int n

def float (x : Float) : Json := number (.float x)

/-- A value that may be missing. -/
def ofOption {α : Type} (write : α → Json) : Option α → Json
  | some value => write value
  | none => null

def strs (items : List String) : Json := arr (items.map str)

/-- The value of a field of an object. -/
def field? (json : Json) (name : String) : Option Json :=
  match json with
  | obj fields => Dict.get? fields name
  | _ => none

mutual

/-- How deep the brackets of a document are nested. -/
def depth : Json → Nat
  | arr items => depthIn items + 1
  | obj fields => depthOf fields + 1
  | null | bool _ | number _ | str _ => 0

def depthIn : List Json → Nat
  | [] => 0
  | item :: rest => max (depth item) (depthIn rest)

def depthOf : List (String × Json) → Nat
  | [] => 0
  | (_, item) :: rest => max (depth item) (depthOf rest)

end

mutual

/-- Whether every number of a document satisfies a test. -/
def allNumbers (test : Number → Bool) : Json → Bool
  | number value => test value
  | arr items => allNumbersIn test items
  | obj fields => allNumbersOf test fields
  | null | bool _ | str _ => true

def allNumbersIn (test : Number → Bool) : List Json → Bool
  | [] => true
  | item :: rest => allNumbers test item && allNumbersIn test rest

def allNumbersOf (test : Number → Bool) : List (String × Json) → Bool
  | [] => true
  | (_, item) :: rest => allNumbers test item && allNumbersOf test rest

end

/-- Whether every whole number of a document is short enough to be written. -/
def isWritable : Json → Bool :=
  allNumbers fun number => match number with
    | .int n => n.natAbs < Numeral.bound
    | .float _ => true

/-- Whether every number of a document is finite. -/
def isFinite : Json → Bool :=
  allNumbers fun number => match number with
    | .int _ => true
    | .float x => x.isFinite

end Json

end PinBudget
