import PinBudget.Source.Scan
import PinBudget.Text.Lines

/-!
Physical lines with code on them. Estimates that look at one line at a time walk these.
-/
namespace PinBudget.Source

/-- A physical line without blanks and comment around its code. -/
structure CodeLine where
  number : Nat
  text : List Char
  deriving DecidableEq, Repr

/-- The lines with code among lines that are numbered from a number on. -/
def codeLinesFrom (number : Nat) : List (List Char) → List CodeLine
  | [] => []
  | line :: rest =>
    let code := cleanLine line
    if code.isEmpty then codeLinesFrom (number + 1) rest
    else ⟨number, code⟩ :: codeLinesFrom (number + 1) rest

def codeLines (text : List Char) : List CodeLine :=
  codeLinesFrom 1 (Text.lines text)

end PinBudget.Source
