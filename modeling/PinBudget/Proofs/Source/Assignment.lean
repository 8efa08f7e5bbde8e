import PinBudget.Proofs.Source.Scan
import PinBudget.Source.Pattern

/-!
The target of an assignment stands before all quoted texts of its statement, so it can be read off
the mask as well as off the text.
-/
namespace PinBudget

namespace Text

variable {p : Char → Bool} {stop : Char}

theorem takeWhile_append_stop (stops : p stop = false) (front tail : List Char) :
    (front ++ stop :: tail).takeWhile p = front.takeWhile p := by
  rw [List.takeWhile_append, List.takeWhile_cons_of_neg (by simp [stops]), List.append_nil]
  split
  · rename_i whole
    exact ((List.takeWhile_prefix p).eq_of_length whole).symm
  · rfl

theorem dropWhile_append_stop (stops : p stop = false) (front tail : List Char) :
    (front ++ stop :: tail).dropWhile p = front.dropWhile p ++ stop :: tail := by
  rw [List.dropWhile_append, List.dropWhile_cons_of_neg (by simp [stops])]
  split
  · rename_i empty
    rw [List.isEmpty_iff.mp empty, List.nil_append]
  · rfl

end Text

namespace Source

open ScanState

variable {quote : Char}

/-- A character that stops the reading of an assignment before its right-hand side. -/
structure Stops (c : Char) : Prop where
  word : Text.isWord c = false
  blank : Text.isBlank c = false
  start : Text.isNameStart c = false
  sigil : c ≠ '@'
  equals : c ≠ '='

theorem stops_of_isQuote (quoting : isQuote quote = true) : Stops quote := by
  rcases (Bool.or_eq_true _ _).mp quoting with double | single
  · rw [beq_iff_eq.mp double]
    exact ⟨by decide, by decide, by decide, by decide, by decide⟩
  · rw [beq_iff_eq.mp single]
    exact ⟨by decide, by decide, by decide, by decide, by decide⟩

namespace Stops

variable {stop : Char} (stops : Stops stop) (front tail : List Char)

include stops

theorem splitSigils_append : splitSigils (front ++ stop :: tail) =
    ((splitSigils front).1, (splitSigils front).2 ++ stop :: tail) := by
  have other := stops.sigil
  fun_cases splitSigils front with
  | case1 rest => rfl
  | case2 rest single =>
    rw [List.cons_append, splitSigils]
    cases rest with
    | nil => simpa using other
    | cons c others =>
      rintro further same
      obtain ⟨rfl, _⟩ := List.cons.inj same
      exact single others rfl
  | case3 text double single =>
    have bare : ∀ rest, front ++ stop :: tail ≠ '@' :: rest := by
      intro rest same
      cases front with
      | nil => exact other (List.cons.inj same).1
      | cons c others => exact single others (congrArg (· :: others) (List.cons.inj same).1)
    rw [splitSigils]
    · exact fun rest same => bare _ same
    · exact bare

theorem behindVariable?_append : behindVariable? (front ++ stop :: tail) =
    (behindVariable? front).map (· ++ stop :: tail) := by
  rw [behindVariable?, behindVariable?, stops.splitSigils_append]
  cases (splitSigils front).2 with
  | nil => simp [stops.start]
  | cons c rest =>
    simp only [List.cons_append, Text.dropWhile_append_stop stops.word]
    split <;> rfl

theorem variableAt_append : variableAt (front ++ stop :: tail) = variableAt front := by
  rw [variableAt, variableAt, stops.splitSigils_append]
  simp only [Text.takeWhile_append_stop stops.word]

/-- What stands behind such a character is no part of the target of an assignment. -/
theorem target_append (other : List Char) :
    (assignment? (front ++ stop :: tail)).map Prod.fst =
      (assignment? (front ++ stop :: other)).map Prod.fst := by
  have trimmed (text more : List Char) :
      Text.trimLeft (text ++ stop :: more) = Text.trimLeft text ++ stop :: more :=
    Text.dropWhile_append_stop stops.blank text more
  simp only [assignment?, variableName?, stops.behindVariable?_append, stops.variableAt_append]
  cases behindVariable? front with
  | none => rfl
  | some rest =>
    simp only [Option.map_some, trimmed]
    cases Text.trimLeft rest with
    | nil => simp [stops.equals]
    | cons c right =>
      have first (more : List Char) :
          (right ++ stop :: more).head? = some (right.head?.getD stop) := by
        cases right <;> rfl
      have shown (more : List Char) : (Text.trimLeft (right ++ stop :: more)).isEmpty = false := by
        simp [trimmed]
      by_cases assigns : c = '='
      · subst assigns
        simp only [List.cons_append, first, shown]
        split <;> rfl
      · simp [assigns]

end Stops

theorem exists_step_level {c : Char} (unquoted : isQuote c = false) (depth : Int) :
    ∃ after, (level depth).step c = level after := by
  by_cases opens : isOpening c = true
  · exact ⟨depth + 1, by simp [step, unquoted, opens]⟩
  · by_cases closes : isClosing c = true
    · exact ⟨depth - 1, by simp [step, unquoted, opens, closes]⟩
    · exact ⟨depth, by simp [step, unquoted, opens, closes]⟩

private theorem masked_level (depth : Int) (text : List Char) :
    ((level depth).marks text).map Mark.masked = text ∨
      ∃ front quote tail shown, isQuote quote = true ∧ text = front ++ quote :: tail ∧
        ((level depth).marks text).map Mark.masked = front ++ quote :: shown := by
  induction text generalizing depth with
  | nil => exact .inl rfl
  | cons c rest ih =>
    rw [marks, List.map_cons]
    by_cases quoting : isQuote c = true
    · have seen : ((level depth).mark c).masked = c := by simp [Mark.masked, mark, quoting]
      exact .inr ⟨[], c, rest, _, quoting, rfl, congrArg (· :: _) seen⟩
    · have unquoted : isQuote c = false := by simpa using quoting
      have seen : ((level depth).mark c).masked = c := by simp [Mark.masked, mark, unquoted]
      obtain ⟨after, reached⟩ := exists_step_level unquoted depth
      rw [seen, reached]
      rcases ih after with plain | ⟨front, quote, tail, shown, isQuote, split, masked⟩
      · exact .inl (by rw [plain])
      · exact .inr ⟨c :: front, quote, tail, shown, isQuote, by rw [split]; rfl, by rw [masked]; rfl⟩

/-- The mask shows the target of the assignment that a statement begins with. -/
theorem target_mask (text : List Char) :
    (assignment? (mask text)).map Prod.fst = (assignment? text).map Prod.fst := by
  rcases masked_level 0 text with plain | ⟨front, quote, tail, shown, quoting, split, masked⟩
  · rw [mask, scan, plain]
  · rw [mask, scan, masked, split]
    exact (stops_of_isQuote quoting).target_append front shown tail

end Source

end PinBudget
