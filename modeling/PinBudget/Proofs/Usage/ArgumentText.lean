import PinBudget.Proofs.Source.Brackets
import PinBudget.Usage.Construction

/-!
The argument text behind a constructor. Whether a parenthesis opens there is seen in the mask, and
what closes it is looked for in the statement itself. The two agree: a parenthesis that the mask
shows stands outside quotes, so the argument text is the balanced content of its parentheses.
-/
namespace PinBudget

open Source

variable {text statement masked : List Char} {opening stop index : Nat}

namespace Source

/-- The mask hides what is quoted, except for the quotes. -/
theorem Mark.unquoted_of_masked {mark : Mark} {c : Char} (same : mark.masked = c) (shown : c ≠ ' ')
    (plain : isQuote c = false) : mark.char = c ∧ mark.quoted = false := by
  unfold masked at same
  split at same
  · exact absurd same.symm shown
  · rename_i visible
    subst same
    exact ⟨rfl, by simpa [plain] using visible⟩

/-- A parenthesis that the mask shows is one of the text, outside quotes. -/
theorem exists_unquoted_parenthesis (shown : (mask text)[index]? = some '(') :
    ∃ depth, (scan text)[index]? = some ⟨'(', depth, false⟩ := by
  rw [mask, List.getElem?_map] at shown
  obtain ⟨⟨c, depth, quoted⟩, marked, same⟩ := Option.map_eq_some_iff.mp shown
  obtain ⟨rfl, rfl⟩ := Mark.unquoted_of_masked same (by decide) (by decide)
  exact ⟨depth, marked⟩

end Source

namespace Usage

/-- The index of the parenthesis that opens behind a constructor, if the next character that is
shown is one. -/
def parenthesisBehind? (masked : List Char) (stop : Nat) : Option Nat :=
  let rest := masked.drop stop
  let shown := Text.trimLeft rest
  if shown.head? == some '(' then some (stop + (rest.length - shown.length)) else none

/-- The argument text behind a constructor without parentheses. -/
def bareArguments (statement masked : List Char) (stop : Nat) : List Char :=
  let shown := Text.trimLeft (masked.drop stop)
  if shown.isEmpty || (oneOf? nonArguments shown).isSome then [] else Text.trim (statement.drop stop)

/-- A closing bracket is looked for only behind a parenthesis. -/
theorem argumentText?_eq (statement masked : List Char) (stop : Nat) :
    argumentText? statement masked stop =
      (parenthesisBehind? masked stop).elim (some (bareArguments statement masked stop))
        fun opening => (findClosing? statement opening).map (between statement opening) := by
  unfold argumentText? parenthesisBehind? bareArguments
  dsimp only
  split
  · rfl
  · split <;> rfl

theorem parenthesisBehind?_eq_some_iff :
    parenthesisBehind? masked stop = some opening ↔
      ∃ blanks behind : List Char, masked.drop stop = blanks ++ '(' :: behind ∧
        (∀ c ∈ blanks, Text.isBlank c = true) ∧ opening = stop + blanks.length := by
  unfold parenthesisBehind?
  generalize masked.drop stop = rest
  dsimp only
  constructor
  · intro found
    obtain ⟨opened, same⟩ := Option.ite_none_right_eq_some.mp found
    obtain ⟨blanks, blank, whole⟩ := Text.exists_trimLeft rest
    obtain ⟨behind, shown⟩ := List.head?_eq_some_iff.mp (beq_iff_eq.mp opened)
    refine ⟨blanks, behind, shown ▸ whole, blank, ?_⟩
    have length := congrArg List.length whole
    rw [List.length_append] at length
    have places := Option.some.inj same
    omega
  · rintro ⟨blanks, behind, rfl, blank, rfl⟩
    have shown : Text.trimLeft (blanks ++ '(' :: behind) = '(' :: behind := by
      rw [Text.trimLeft_blanks blank, Text.trimLeft_cons (by decide)]
    rw [shown, List.length_append, Nat.add_sub_cancel]
    rfl

theorem getElem?_of_parenthesisBehind? (found : parenthesisBehind? masked stop = some opening) :
    masked[opening]? = some '(' := by
  obtain ⟨blanks, behind, whole, -, rfl⟩ := parenthesisBehind?_eq_some_iff.mp found
  rw [← List.getElem?_drop, whole, List.getElem?_append_right (Nat.le_refl _), Nat.sub_self]
  rfl

/-- From an opening bracket outside quotes, whatever stands before it, the search ends at the least
index behind it at which a closing bracket outside quotes brings the depth back to what it was
before it, and nowhere if there is no such index. What stands strictly between the two closes its
brackets and never more of them than it opens; scanned on its own, each of its positions is quoted
or not as in the whole text, and less deep by the depth at the bracket. Behind a constructor,
wherever it ends in the mask, the search is made only from a parenthesis that stands outside quotes
in the statement, and the argument text is what stands between this parenthesis and what the search
finds. -/
theorem argument_text_balanced (text : List Char) :
    (∀ depth opening, OpensAt text depth opening →
      (∀ closing, findClosing? text opening = some closing ↔
        IsLeast {index | ClosesBehind text opening index} closing) ∧
      (findClosing? text opening = none ↔ ∀ index, ¬ClosesBehind text opening index) ∧
      ∀ closing, findClosing? text opening = some closing →
        Balanced (between text opening closing) ∧
          ∀ place inner, (scan (between text opening closing))[place]? = some inner →
            ∃ outer, (scan text)[opening + 1 + place]? = some outer ∧
              inner.quoted = outer.quoted ∧ inner.depth = outer.depth - depth) ∧
      ∀ stop,
        argumentText? text (mask text) stop =
          (parenthesisBehind? (mask text) stop).elim
            (some (bareArguments text (mask text) stop))
            (fun opening => (findClosing? text opening).map (between text opening)) ∧
        ∀ opening, parenthesisBehind? (mask text) stop = some opening →
          ∃ depth, (scan text)[opening]? = some ⟨'(', depth, false⟩ := by
  constructor
  · intro depth opening opens
    refine ⟨fun closing => opens.findClosing?_eq_some_iff, opens.findClosing?_eq_none_iff, ?_⟩
    intro closing found
    refine ⟨opens.balanced_between (opens.findClosing?_eq_some_iff.mp found), ?_⟩
    intro place inner marked
    refine ⟨_, opens.getElem?_scan_between marked, rfl, ?_⟩
    exact (Int.add_sub_cancel inner.depth depth).symm
  · intro stop
    refine ⟨argumentText?_eq text (mask text) stop, fun opening found => ?_⟩
    exact exists_unquoted_parenthesis (getElem?_of_parenthesisBehind? found)

/-- Brackets that are closed too often before the constructor, quoted brackets and an escaped quote
before and between its parentheses, and a parenthesis behind them that stays open. -/
theorem argument_text_balanced_of_quoted_brackets :
    let text := "a)) = '(\\''; b[GPIO.new ( [1, \")\"], 'it\\'s (' )].c(".toList
    let inner := " [1, \")\"], 'it\\'s (' ".toList
    OpensAt text 0 24 ∧ IsLeast {index | ClosesBehind text 24 index} 46 ∧ Balanced inner ∧
      (scan inner)[6]? = some ⟨')', 1, true⟩ ∧
      (∃ outer, (scan text)[24 + 1 + 6]? = some outer ∧ true = outer.quoted ∧
        1 = outer.depth - 0) ∧
      (occurrences construction (mask text)).map Found.stop = [23] ∧
      parenthesisBehind? (mask text) 23 = some 24 ∧
      argumentText? text (mask text) 23 = some inner ∧
      OpensAt text (-1) 50 ∧ ∀ index, ¬ClosesBehind text 50 index := by
  intro text inner
  obtain ⟨searched, read⟩ := argument_text_balanced text
  have opens : OpensAt text 0 24 := ⟨'(', by decide, by decide⟩
  have open_ : OpensAt text (-1) 50 := ⟨'(', by decide, by decide⟩
  have found : findClosing? text 24 = some 46 := by decide
  have content : between text 24 46 = inner := by decide
  have quoted : (scan inner)[6]? = some ⟨')', 1, true⟩ := by decide
  have constructed : (occurrences construction (mask text)).map Found.stop = [23] := by decide +kernel
  have begun : parenthesisBehind? (mask text) 23 = some 24 := by decide
  obtain ⟨first, -, bounded⟩ := searched 0 24 opens
  obtain ⟨balanced, alike⟩ := bounded 46 found
  rw [content] at balanced alike
  have taken := (read 23).1
  rw [begun, Option.elim_some, found, Option.map_some, content] at taken
  refine ⟨opens, (first 46).mp found, balanced, quoted, alike 6 _ quoted, constructed, begun, taken,
    open_, ?_⟩
  exact (searched (-1) 50 open_).2.1.mp (by decide)

end Usage

end PinBudget
