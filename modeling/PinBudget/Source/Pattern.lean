import PinBudget.Text.Blank
import PinBudget.Text.Word

/-!
Finding patterns in a line. A pattern sees the character before a position and the text from there
on, and gives what it found with the text behind it.
-/
namespace PinBudget.Source

/-- A pattern that can match at the front of a text. -/
abbrev Pattern (α : Type) := Option Char → List Char → Option (α × List Char)

/-- What a pattern found, and where. -/
structure Found (α : Type) where
  start : Nat
  stop : Nat
  value : α
  deriving Repr

/-- The occurrences of a pattern from left to right, each behind the one before it. -/
def occurrencesFrom {α : Type} (pattern : Pattern α) (before : Option Char) (offset : Nat) :
    List Char → List (Found α)
  | [] => []
  | c :: rest =>
    match pattern before (c :: rest) with
    | none => occurrencesFrom pattern (some c) (offset + 1) rest
    | some (value, after) =>
      let size := rest.length + 1 - after.length
      ⟨offset, offset + size, value⟩ ::
        occurrencesFrom pattern ((c :: rest)[size - 1]?) (offset + size) (rest.drop (size - 1))
termination_by text => text.length
decreasing_by
  all_goals simp only [List.length_cons, List.length_drop]
  all_goals omega

def occurrences {α : Type} (pattern : Pattern α) (text : List Char) : List (Found α) :=
  occurrencesFrom pattern none 0 text

def matchesOf {α : Type} (pattern : Pattern α) (text : List Char) : List α :=
  (occurrences pattern text).map Found.value

def occurs {α : Type} (pattern : Pattern α) (text : List Char) : Bool :=
  !(occurrences pattern text).isEmpty

/-- The text behind an expected beginning. -/
def after? (expected text : List Char) : Option (List Char) :=
  if expected.isPrefixOf text then some (text.drop expected.length) else none

/-- A word from a list that stands at the front of a text, with the text behind it. -/
def oneOf? (words : List String) (text : List Char) : Option (String × List Char) :=
  words.findSome? fun word => (after? word.toList text).map fun rest => (word, rest)

/-- The sigils at the front of a text, at most two, and what follows them. -/
def splitSigils : List Char → List Char × List Char
  | '@' :: '@' :: rest => (['@', '@'], rest)
  | '@' :: rest => (['@'], rest)
  | text => ([], text)

/-- The text behind a variable: up to two sigils and a name. -/
def behindVariable? (text : List Char) : Option (List Char) :=
  match (splitSigils text).2 with
  | [] => none
  | c :: rest => if Text.isNameStart c then some (rest.dropWhile Text.isWord) else none

/-- The variable at the front of a text that has one there. -/
def variableAt (text : List Char) : List Char :=
  let (sigils, body) := splitSigils text
  sigils ++ body.takeWhile Text.isWord

/-- A variable and the text behind it. -/
def variableName? (text : List Char) : Option (List Char × List Char) :=
  (behindVariable? text).map fun rest => (variableAt text, rest)

/-- The target and the right-hand side of an assignment that a statement begins with. Comparisons
and arrows are no assignments. -/
def assignment? (text : List Char) : Option (List Char × List Char) :=
  match variableName? text with
  | none => none
  | some (name, rest) =>
    match Text.trimLeft rest with
    | '=' :: right =>
      match right.head? with
      | some '=' | some '~' | some '>' => none
      | _ =>
        let value := Text.trimLeft right
        if value.isEmpty then none else some (name, value)
    | _ => none

end PinBudget.Source
