import Mathlib.Data.List.Forall2
import PinBudget.Proofs.Source.Joining
import PinBudget.Source.CodeLine

/-!
Two sources read line by line. A relation of cleaned lines that sees which of them are empty and how
many brackets they leave open, and that lasts when lines are joined, carries over from the lines of
two sources to their statements and to their code lines.
-/
namespace PinBudget.Source

variable {related : List Char → List Char → Prop} {text other : List Char}
variable {first second : List (List Char)}

instance decidableForall₂ {α β : Type} {matching : α → β → Prop}
    [∀ item other, Decidable (matching item other)] :
    ∀ items others, Decidable (List.Forall₂ matching items others)
  | [], [] => isTrue .nil
  | [], _ :: _ | _ :: _, [] => isFalse nofun
  | _ :: items, _ :: others =>
    have : Decidable (List.Forall₂ matching items others) := decidableForall₂ items others
    decidable_of_iff _ List.forall₂_cons.symm

/-- A relation of texts that reading line by line respects. -/
structure Joinable (related : List Char → List Char → Prop) : Prop where
  empty : ∀ {text other}, related text other → text.isEmpty = other.isEmpty
  depth : ∀ {text other}, related text other → bracketDepth text = bracketDepth other
  join : ∀ {text other line partner}, related text other → related line partner →
    related (text ++ ' ' :: line) (other ++ ' ' :: partner)

theorem joinable_eq : Joinable Eq where
  empty same := by rw [same]
  depth same := by rw [same]
  join same alike := by rw [same, alike]

/-- The codes of two lines are related. -/
def Cleaned (related : List Char → List Char → Prop) (line partner : List Char) : Prop :=
  related (cleanLine line) (cleanLine partner)

/-- Two statements on the same line whose texts are related. -/
structure Statement.Matches (related : List Char → List Char → Prop)
    (statement partner : Statement) : Prop where
  line : statement.line = partner.line
  text : related statement.text partner.text

/-- Two code lines with the same number whose texts are related. -/
structure CodeLine.Matches (related : List Char → List Char → Prop) (code partner : CodeLine) :
    Prop where
  number : code.number = partner.number
  text : related code.text partner.text

namespace Joinable

variable (joinable : Joinable related)

include joinable

theorem joinLines (budget : Nat) (texts : related text other)
    (lines : List.Forall₂ (Cleaned related) first second) :
    related (joinLines budget text first).text (joinLines budget other second).text ∧
      (joinLines budget text first).taken = (joinLines budget other second).taken ∧
      List.Forall₂ (Cleaned related) (joinLines budget text first).rest
        (joinLines budget other second).rest := by
  induction budget generalizing text other first second with
  | zero =>
    rw [joinLines_zero, joinLines_zero]
    exact ⟨texts, rfl, lines⟩
  | succ budget ih =>
    cases lines with
    | nil => exact ⟨texts, rfl, .nil⟩
    | cons head tail =>
      rw [Source.joinLines, Source.joinLines, joinable.depth texts]
      split
      · obtain ⟨joined, taken, rest⟩ := ih (joinable.join texts head) tail
        exact ⟨joined, congrArg Nat.succ taken, rest⟩
      · exact ⟨texts, rfl, .cons head tail⟩

theorem statementsFrom (number : Nat) (lines : List.Forall₂ (Cleaned related) first second) :
    List.Forall₂ (Statement.Matches related) (statementsFrom number first)
      (statementsFrom number second) := by
  fun_induction Source.statementsFrom number first generalizing second
  case case1 number =>
    cases lines
    rw [Source.statementsFrom]
    exact .nil
  case case2 number line rest code blank ih =>
    cases lines with
    | cons head tail =>
      rw [statementsFrom_blank ((joinable.empty head).symm.trans blank)]
      exact ih tail
  case case3 number line rest code blank joined ih =>
    cases lines with
    | cons head tail =>
      have begun : (cleanLine line).isEmpty = false := by simpa using blank
      obtain ⟨text, taken, left⟩ := joinable.joinLines continuationLimit head tail
      rw [statementsFrom_code ((joinable.empty head).symm.trans begun), ← taken]
      exact .cons ⟨rfl, text⟩ (ih left)

theorem codeLinesFrom (number : Nat) (lines : List.Forall₂ (Cleaned related) first second) :
    List.Forall₂ (CodeLine.Matches related) (codeLinesFrom number first)
      (codeLinesFrom number second) := by
  induction lines generalizing number with
  | nil => exact .nil
  | cons head _ ih =>
    rw [Source.codeLinesFrom, Source.codeLinesFrom, joinable.empty head]
    split
    · exact ih (number + 1)
    · exact .cons ⟨rfl, head⟩ (ih (number + 1))

end Joinable

/-- Only the code of the lines enters the statements. -/
theorem statementsFrom_congr (number : Nat) (same : List.Forall₂ (Cleaned Eq) first second) :
    statementsFrom number first = statementsFrom number second := by
  have matched := joinable_eq.statementsFrom number same
  refine List.forall₂_eq_eq_eq ▸ matched.imp ?_
  rintro ⟨line, text⟩ ⟨_, _⟩ ⟨rfl, rfl⟩
  rfl

theorem codeLinesFrom_congr (number : Nat) (same : List.Forall₂ (Cleaned Eq) first second) :
    codeLinesFrom number first = codeLinesFrom number second := by
  have matched := joinable_eq.codeLinesFrom number same
  refine List.forall₂_eq_eq_eq ▸ matched.imp ?_
  rintro ⟨number, text⟩ ⟨_, _⟩ ⟨rfl, rfl⟩
  rfl

end PinBudget.Source
