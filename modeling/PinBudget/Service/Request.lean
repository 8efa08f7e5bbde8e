import PinBudget.Json.Basic
import PinBudget.Number.Input
import PinBudget.Text.Blank

/-!
Requests to the web service: the documents that they carry, read with all their defects at once.
-/
namespace PinBudget.Service

/-- What is wrong with a part of a document. -/
inductive Problem where
  | missing
  | notText
  | notTruthValue
  | unreadableTruthValue
  | notNumber
  | unreadableNumber
  | notPositive
  | tooShort
  | notList
  | notObject
  deriving DecidableEq, Repr

def Problem.name : Problem → String
  | missing => "missing"
  | notText => "string_type"
  | notTruthValue => "bool_type"
  | unreadableTruthValue => "bool_parsing"
  | notNumber => "float_type"
  | unreadableNumber => "float_parsing"
  | notPositive => "greater_than"
  | tooShort => "too_short"
  | notList => "list_type"
  | notObject => "model_attributes_type"

/-- A step into a document. -/
inductive Step where
  | field (name : String)
  | index (place : Nat)
  deriving DecidableEq, Repr

/-- A problem and where it is. -/
structure Defect where
  problem : Problem
  place : List Step
  deriving DecidableEq, Repr

def Defect.document (defect : Defect) : Json :=
  let step : Step → Json
    | .field name => .str name
    | .index place => .nat place
  .arr [.str defect.problem.name, .arr (defect.place.map step)]

/-- A part of a document, or all its defects. -/
abbrev Checked (α : Type) := Except (List Defect) α

namespace Checked

private def defect {α : Type} (problem : Problem) (place : List Step) : Checked α :=
  .error [⟨problem, place⟩]

def defects {α : Type} : Checked α → List Defect
  | .ok _ => []
  | .error defects => defects

/-- Two parts; the defects of both count. -/
def both {α β : Type} (first : Checked α) (second : Checked β) : Checked (α × β) :=
  match first, second with
  | .ok a, .ok b => .ok (a, b)
  | first, second => .error (defects first ++ defects second)

/-- Several parts; the defects of all count. -/
def all {α : Type} : List (Checked α) → Checked (List α)
  | [] => .ok []
  | first :: rest => (both first (all rest)).map fun (item, items) => item :: items

end Checked

/-- A part at a place. -/
abbrev Reader (α : Type) := List Step → Json → Checked α

private def text : Reader String := fun place json =>
  match json with
  | .str value => .ok value
  | _ => Checked.defect .notText place

/-- A text; null stands for none. -/
private def optionalText : Reader (Option String) := fun place json =>
  match json with
  | .null => .ok none
  | other => (text place other).map some

private def trueWords : List String := ["1", "on", "t", "true", "y", "yes"]

private def falseWords : List String := ["0", "off", "f", "false", "n", "no"]

/-- Whether a number is whole and fits into eight bytes. -/
private def isWord : Number → Bool
  | .int n => -(Nat.pow 2 63 : Nat) ≤ n && n < (Nat.pow 2 63 : Nat)
  | .float x => x.floor == x && -9223372036854775808.0 < x && x < 9223372036854775808.0

/-- The truth value that a number stands for. -/
private def truthOfNumber (place : List Step) (value : Number) : Checked Bool :=
  if value.same (.int 1) then .ok true
  else if value.same (.int 0) then .ok false
  else if isWord value then Checked.defect .unreadableTruthValue place
  else Checked.defect .notTruthValue place

/-- A truth value, also as a word or a number. -/
private def truthValue : Reader Bool := fun place json =>
  match json with
  | .bool value => .ok value
  | .str word =>
    let lower := String.ofList (word.toList.map Char.toLower)
    if trueWords.contains lower then .ok true
    else if falseWords.contains lower then .ok false
    else Checked.defect .unreadableTruthValue place
  | .number value => truthOfNumber place value
  | .null | .arr _ | .obj _ => Checked.defect .notTruthValue place

/-- Whether underscores only stand alone and inside a text. -/
private def separatesOnly (body : List Char) : Bool :=
  body.head? != some '_' && body.getLast? != some '_' &&
    !(body.zip (body.drop 1)).contains ('_', '_')

/-- The number that a text of ASCII characters stands for. Either blanks stand around it or single
underscores inside it. -/
private def numberOfText? (shown : List Char) : Option Float :=
  let body := Numeral.unframed shown
  if body.any fun c => 128 ≤ c.toNat then none
  else if !body.contains '_' then Numeral.readFloat? body
  else if body.length == shown.length && separatesOnly body then
    Numeral.readFloat? (body.filter (· != '_'))
  else none

/-- A number, also as a text or a truth value. -/
private def number : Reader Float := fun place json =>
  match json with
  | .number value =>
    match value.toFloat with
    | .ok x => .ok x
    | .error _ => Checked.defect .notNumber place
  | .bool value => .ok (if value then 1.0 else 0.0)
  | .str shown =>
    match numberOfText? shown.toList with
    | some x => .ok x
    | none => Checked.defect .unreadableNumber place
  | .null | .arr _ | .obj _ => Checked.defect .notNumber place

/-- A number above zero; null stands for none. -/
private def optionalPositive : Reader (Option Float) := fun place json =>
  match json with
  | .null => .ok none
  | other =>
    match number place other with
    | .ok x => if 0.0 < x then .ok (some x) else Checked.defect .notPositive place
    | .error defects => .error defects

private def optionalField {α : Type} (read : Reader α) (default : α) (place : List Step)
    (fields : Dict String Json) (name : String) : Checked α :=
  match fields.get? name with
  | none => .ok default
  | some json => read (place ++ [.field name]) json

private def requiredField {α : Type} (read : Reader α) (place : List Step)
    (fields : Dict String Json) (name : String) : Checked α :=
  match fields.get? name with
  | none => Checked.defect .missing (place ++ [.field name])
  | some json => read (place ++ [.field name]) json

private def withFields {α : Type} (read : List Step → Dict String Json → Checked α) :
    Reader α := fun place json =>
  match json with
  | .obj fields => read place fields
  | _ => Checked.defect .notObject place

/-- A source as it is sent. -/
structure SourceFile where
  sourceId : String
  text : String
  bytecode : Option String
  deriving DecidableEq, Repr

private def sourceFields (place : List Step) (fields : Dict String Json) : Checked SourceFile :=
  let name := optionalField text "<string>" place fields "source_id"
  let content := requiredField text place fields "text"
  let bytecode := optionalField optionalText none place fields "bytecode_b64"
  (Checked.both name (Checked.both content bytecode)).map fun (name, content, bytecode) =>
    ⟨name, content, bytecode⟩

/-- How sources are to be analyzed, as it is sent. -/
structure Wishes where
  estimate : Bool
  responseLimit : Option Float

private def wishFields (place : List Step) (fields : Dict String Json) : Checked Wishes :=
  let estimate := optionalField truthValue true place fields "estimate"
  let limit := optionalField optionalPositive none place fields "max_response_ms"
  (Checked.both estimate limit).map fun (estimate, limit) => ⟨estimate, limit⟩

private def nonemptyList {α : Type} (read : Reader α) : Reader (List α) := fun place json =>
  match json with
  | .arr [] => Checked.defect .tooShort place
  | .arr items =>
    Checked.all (items.mapIdx fun index item => read (place ++ [.index index]) item)
  | _ => Checked.defect .notList place

/-- The whole document of a request; without one, the document itself is missing. -/
private def wholeBody {α : Type} (read : Reader α) (body : Option Json) : Checked α :=
  let place := [Step.field "body"]
  match body with
  | none | some .null => Checked.defect .missing place
  | some json => read place json

/-- A request to analyze one source. -/
def readSource (body : Option Json) : Checked (SourceFile × Wishes) :=
  wholeBody (withFields fun place fields =>
    Checked.both (sourceFields place fields) (wishFields place fields)) body

/-- A request to analyze several sources as a project. -/
def readProject (body : Option Json) : Checked (List SourceFile × Wishes) :=
  wholeBody (withFields fun place fields =>
    Checked.both
      (requiredField (nonemptyList (withFields sourceFields)) place fields "files")
      (wishFields place fields)) body

end PinBudget.Service
