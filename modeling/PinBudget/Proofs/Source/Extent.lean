import Mathlib.Algebra.GroupWithZero.Nat
import PinBudget.Proofs.Source.Blocks
import PinBudget.Proofs.Source.Cleaning
import PinBudget.Proofs.Source.Pattern
import PinBudget.Proofs.Text.Blank
import PinBudget.Proofs.Text.Lines

/-!
How much a text can hold. Its lines, its code lines and its statements have no more characters than
the text, each with one more for its end, and a pattern does not occur more often in a line than the
line has characters.
-/
namespace PinBudget

/-- The characters of texts with one more for the end of each. -/
def extent (texts : List (List Char)) : Nat :=
  (texts.map fun text => text.length + 1).sum

theorem extent_cons (text : List Char) (rest : List (List Char)) :
    extent (text :: rest) = text.length + 1 + extent rest :=
  List.sum_cons

theorem length_lt_extent {texts : List (List Char)} {text : List Char} (member : text ∈ texts) :
    text.length < extent texts := by
  induction texts with
  | nil => cases member
  | cons first rest ih =>
    rw [extent_cons]
    rcases List.mem_cons.mp member with rfl | later
    · omega
    · have := ih later
      omega

namespace Text

theorem length_trim_le (text : List Char) : (trim text).length ≤ text.length :=
  List.IsInfix.length_le <| trim_infix text

theorem extent_linesAfter (line text : List Char) :
    extent (linesAfter line text) ≤ line.length + text.length + 1 := by
  fun_induction linesAfter line text with
  | case1 line empty => exact Nat.zero_le _
  | case2 line filled => simp [extent]
  | case3 line rest ih =>
    simp only [extent_cons, List.length_reverse, List.length_cons, List.length_nil] at ih ⊢
    omega
  | case4 line c rest _ broken ih =>
    simp only [extent_cons, List.length_reverse, List.length_cons, List.length_nil] at ih ⊢
    omega
  | case5 line c rest _ plain ih =>
    simp only [List.length_cons] at ih ⊢
    omega

theorem extent_lines (text : List Char) : extent (lines text) ≤ text.length + 1 := by
  have bound := extent_linesAfter [] text
  rwa [List.length_nil, Nat.zero_add] at bound

end Text

namespace Source

theorem length_cleanLine_le (line : List Char) : (cleanLine line).length ≤ line.length := by
  rw [cleanLine_eq_trim]
  have front : codePart line <+: line := codePart_prefix line
  exact (Text.length_trim_le _).trans front.length_le

theorem extent_codeLinesFrom (number : Nat) (lines : List (List Char)) :
    extent ((codeLinesFrom number lines).map CodeLine.text) ≤ extent lines := by
  induction lines generalizing number with
  | nil => exact Nat.le_refl _
  | cons line rest ih =>
    have own := length_cleanLine_le line
    have others := ih (number + 1)
    rw [codeLinesFrom, extent_cons]
    split
    · omega
    · rw [List.map_cons, extent_cons]
      dsimp only
      omega

theorem extent_codeLines (text : List Char) :
    extent ((codeLines text).map CodeLine.text) ≤ text.length + 1 :=
  (extent_codeLinesFrom 1 _).trans (Text.extent_lines text)

theorem extent_joinLines (budget : Nat) (text : List Char) (lines : List (List Char)) :
    (joinLines budget text lines).text.length + extent (joinLines budget text lines).rest ≤
      text.length + extent lines := by
  induction budget generalizing text lines with
  | zero => exact Nat.le_refl _
  | succ budget ih =>
    cases lines with
    | nil => exact Nat.le_refl _
    | cons line rest =>
      have own := length_cleanLine_le line
      have joined := ih (text ++ ' ' :: cleanLine line) rest
      rw [List.length_append, List.length_cons] at joined
      rw [joinLines, extent_cons]
      split
      · dsimp only
        omega
      · rw [extent_cons]

theorem extent_statementsFrom (number : Nat) (lines : List (List Char)) :
    extent ((statementsFrom number lines).map Statement.text) ≤ extent lines := by
  fun_induction statementsFrom number lines with
  | case1 => exact Nat.le_refl _
  | case2 number line rest first blank ih =>
    rw [extent_cons]
    omega
  | case3 number line rest first code joined ih =>
    have own := length_cleanLine_le line
    have taken : joined.text.length + extent joined.rest ≤ (cleanLine line).length + extent rest :=
      extent_joinLines continuationLimit first rest
    rw [List.map_cons, extent_cons, extent_cons]
    dsimp only
    omega

theorem extent_statements (text : List Char) :
    extent ((statements text).map Statement.text) ≤ text.length + 1 :=
  (extent_statementsFrom 1 _).trans (Text.extent_lines text)

theorem length_mask (text : List Char) : (mask text).length = text.length := by
  rw [mask, List.length_map, length_scan]

variable {α : Type} {pattern : Pattern α}

theorem length_occurrencesFrom_le (before : Option Char) (offset : Nat) (text : List Char) :
    (occurrencesFrom pattern before offset text).length ≤ text.length := by
  fun_induction occurrencesFrom pattern before offset text with
  | case1 => exact Nat.le_refl _
  | case2 before offset c rest _ ih => exact Nat.le_succ_of_le ih
  | case3 before offset c rest value after _ size ih =>
    rw [List.length_cons, List.length_cons]
    rw [List.length_drop] at ih
    omega

theorem length_matchesOf_le (text : List Char) : (matchesOf pattern text).length ≤ text.length := by
  rw [matchesOf, List.length_map]
  exact length_occurrencesFrom_le none 0 text

/-- What is found is what the pattern gives at some place. -/
theorem exists_suffix_of_mem {before : Option Char} {offset : Nat} {text : List Char}
    {found : Found α} (member : found ∈ occurrencesFrom pattern before offset text) :
    ∃ front rest after, rest <:+ text ∧ pattern front rest = some (found.value, after) := by
  fun_induction occurrencesFrom pattern before offset text with
  | case1 => cases member
  | case2 before offset c rest _ ih =>
    obtain ⟨front, own, after, suffix, same⟩ := ih member
    exact ⟨front, own, after, suffix.trans (List.suffix_cons c rest), same⟩
  | case3 before offset c rest value after same size ih =>
    rcases List.mem_cons.mp member with rfl | later
    · exact ⟨before, c :: rest, after, List.suffix_refl _, same⟩
    · obtain ⟨front, own, after, suffix, same⟩ := ih later
      exact ⟨front, own, after,
        suffix.trans ((List.drop_suffix _ rest).trans (List.suffix_cons c rest)), same⟩

/-- The right-hand side of an assignment ends the line. -/
theorem assigned_suffix {text target right : List Char}
    (assigned : assignment? text = some (target, right)) : right <:+ text := by
  unfold assignment? variableName? at assigned
  cases behind : behindVariable? text with
  | none =>
    rw [behind] at assigned
    cases assigned
  | some rest =>
    rw [behind] at assigned
    have left := (List.dropWhile_suffix Text.isBlank).trans (behindVariable?_suffix behind)
    dsimp only [Option.map_some] at assigned
    split at assigned
    · rename_i value equals
      rw [← Text.trimLeft, equals] at left
      split at assigned
      any_goals cases assigned
      split at assigned <;> cases assigned
      exact (List.dropWhile_suffix Text.isBlank).trans ((List.suffix_cons '=' value).trans left)
    · cases assigned

end Source

end PinBudget
