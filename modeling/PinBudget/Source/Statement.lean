import PinBudget.Source.Scan
import PinBudget.Text.Lines

/-!
Statements: physical lines joined while their brackets are open.
-/
namespace PinBudget.Source

/-- A statement and the number of the physical line on which it begins. -/
structure Statement where
  line : Nat
  text : List Char
  deriving DecidableEq, Repr

/-- A statement takes at most this many further lines. -/
def continuationLimit : Nat := 20

/-- A statement's text, the number of further lines that it took, and the lines left. -/
structure Joined where
  text : List Char
  taken : Nat
  rest : List (List Char)
  deriving DecidableEq, Repr

/-- Joins following lines to a statement while brackets are open, at most `budget` of them. -/
def joinLines (budget : Nat) (text : List Char) (lines : List (List Char)) : Joined :=
  match budget, lines with
  | budget + 1, line :: rest =>
    if 0 < bracketDepth text then
      let joined := joinLines budget (text ++ ' ' :: cleanLine line) rest
      { joined with taken := joined.taken + 1 }
    else ⟨text, 0, line :: rest⟩
  | _, _ => ⟨text, 0, lines⟩

/-- Every line is either taken or left. -/
theorem taken_add_length_joinLines (budget : Nat) (text : List Char) (lines : List (List Char)) :
    (joinLines budget text lines).taken + (joinLines budget text lines).rest.length =
      lines.length := by
  induction budget generalizing text lines with
  | zero => simp [joinLines]
  | succ budget ih =>
    cases lines with
    | nil => simp [joinLines]
    | cons line rest =>
      rw [joinLines]
      split
      · have := ih (text ++ ' ' :: cleanLine line) rest
        simp only [List.length_cons]
        omega
      · simp

/-- The statements of the lines from a line number on. Lines without code start no statement. -/
def statementsFrom (number : Nat) (lines : List (List Char)) : List Statement :=
  match lines with
  | [] => []
  | line :: rest =>
    let first := cleanLine line
    if first.isEmpty then statementsFrom (number + 1) rest
    else
      let joined := joinLines continuationLimit first rest
      ⟨number, joined.text⟩ :: statementsFrom (number + 1 + joined.taken) joined.rest
termination_by lines.length
decreasing_by
  · simp
  · have := taken_add_length_joinLines continuationLimit (cleanLine line) rest
    simp only [List.length_cons]
    omega

def statements (text : List Char) : List Statement :=
  statementsFrom 1 (Text.lines text)

end PinBudget.Source
