import Mathlib.Data.List.TakeWhile
import PinBudget.Proofs.Source.Scan

/-!
Cleaning a line. What is left of a line is its part before the comment, without the blanks around
it; so a comment behind a line whose quotes are closed, or behind another comment, changes nothing.
-/
namespace PinBudget.Source

open ScanState

variable {text front back line : List Char}

/-- A comment begins in the text. -/
def HasComment (text : List Char) : Prop :=
  ∃ mark ∈ scan text, mark.startsComment = true

/-- The marks of the text before its comment. -/
private def codeMarks (text : List Char) : List Mark :=
  (scan text).takeWhile fun mark => !mark.startsComment

/-- The text before its comment. -/
def codePart (text : List Char) : List Char :=
  (codeMarks text).map Mark.char

private theorem codeMarks_eq_scan_iff : codeMarks text = scan text ↔ ¬HasComment text := by
  rw [codeMarks, List.takeWhile_eq_self_iff]
  simp [HasComment]

theorem codePart_of_not_hasComment (plain : ¬HasComment text) : codePart text = text := by
  rw [codePart, codeMarks_eq_scan_iff.mpr plain, scan, map_char_marks]

theorem codePart_prefix (text : List Char) : codePart text <+: text := by
  have cut := (List.takeWhile_prefix (l := scan text) fun mark => !mark.startsComment).map Mark.char
  rwa [scan, map_char_marks] at cut

private theorem codeMarks_append (commented : HasComment front) (back : List Char) :
    codeMarks (front ++ back) = codeMarks front := by
  have shorter : (codeMarks front).length ≠ (scan front).length := by
    intro same
    have whole := (List.takeWhile_prefix _).eq_of_length same
    exact codeMarks_eq_scan_iff.mp whole commented
  rw [codeMarks, scan, marks_append, ← scan, List.takeWhile_append, ← codeMarks, if_neg shorter]

theorem codePart_append (commented : HasComment front) (back : List Char) :
    codePart (front ++ back) = codePart front := by
  rw [codePart, codeMarks_append commented, codePart]

theorem codePart_blanks_append (blank : ∀ c ∈ front, Text.isBlank c = true) (text : List Char) :
    codePart (front ++ text) = front ++ codePart text := by
  have outside : (level 0).run front = level 0 := (steady_blanks blank 0).1
  rw [codePart, codeMarks, scan, marks_append, ← scan, (code_blanks blank).takeWhile_append,
    outside, List.map_append, scan, map_char_marks]
  rfl

theorem HasComment.append (commented : HasComment front) (back : List Char) :
    HasComment (front ++ back) := by
  obtain ⟨mark, member, starts⟩ := commented
  refine ⟨mark, ?_, starts⟩
  rw [scan, marks_append]
  exact List.mem_append_left _ member

theorem hasComment_blanks_append (blank : ∀ c ∈ front, Text.isBlank c = true) :
    HasComment (front ++ text) ↔ HasComment text := by
  have outside : (level 0).run front = level 0 := (steady_blanks blank 0).1
  have marked : scan (front ++ text) = scan front ++ scan text := by
    rw [scan, marks_append, outside]
    rfl
  constructor
  · rintro ⟨mark, member, starts⟩
    rw [marked] at member
    rcases List.mem_append.mp member with early | late
    · rw [(code_blanks blank).uncommented 0 mark early] at starts
      cases starts
    · exact ⟨mark, late, starts⟩
  · rintro ⟨mark, member, starts⟩
    exact ⟨mark, marked ▸ List.mem_append_right _ member, starts⟩

theorem hasComment_append_blanks (blank : ∀ c ∈ back, Text.isBlank c = true) :
    HasComment (text ++ back) ↔ HasComment text := by
  refine ⟨?_, fun commented => commented.append back⟩
  rintro ⟨mark, member, starts⟩
  rw [scan, marks_append] at member
  rcases List.mem_append.mp member with early | late
  · exact ⟨mark, early, starts⟩
  · -- A comment begins with a character that is shown.
    have character : mark.char ∈ back := by
      rw [← map_char_marks (ScanState.run {} text) back]
      exact List.mem_map_of_mem late
    have hash : mark.char = '#' := by
      simp only [Mark.startsComment, Bool.and_eq_true, beq_iff_eq] at starts
      exact starts.1
    have shown := blank _ character
    rw [hash] at shown
    cases shown

theorem stripComment_of_not_hasComment (plain : ¬HasComment text) : stripComment text = text := by
  rw [stripComment, ← codeMarks, codeMarks_eq_scan_iff.mpr plain, length_scan]
  simp

theorem stripComment_of_hasComment (commented : HasComment text) :
    stripComment text = Text.trimRight (codePart text) := by
  rw [stripComment, ← codeMarks]
  split
  · rename_i whole
    have same : (codeMarks text).length = (scan text).length := by simpa [length_scan] using whole
    exact absurd commented
      (codeMarks_eq_scan_iff.mp ((List.takeWhile_prefix _).eq_of_length same))
  · rfl

theorem cleanLine_eq_trim (line : List Char) : cleanLine line = Text.trim (codePart line) := by
  obtain ⟨before, behind, blankBefore, blankBehind, split⟩ := Text.exists_trim line
  have tidy := Text.tidy_trim line
  rw [cleanLine]
  generalize Text.trim line = body at split tidy ⊢
  subst split
  by_cases commented : HasComment body
  · have kept : Text.trimLeft (codePart body) = codePart body := by
      obtain ⟨comment, whole⟩ := codePart_prefix body
      cases code : codePart body with
      | nil => rfl
      | cons c rest =>
        refine Text.trimLeft_cons (tidy.first c ?_) rest
        rw [← whole, code]
        rfl
    rw [stripComment_of_hasComment commented,
      codePart_append ((hasComment_blanks_append blankBefore).mpr commented),
      codePart_blanks_append blankBefore, Text.trim, Text.trimLeft_blanks blankBefore, kept]
  · have plain : ¬HasComment (before ++ body ++ behind) := by
      rw [hasComment_append_blanks blankBehind, hasComment_blanks_append blankBefore]
      exact commented
    rw [stripComment_of_not_hasComment commented, codePart_of_not_hasComment plain,
      tidy.trim_eq blankBefore blankBehind]

/-- Behind closed quotes a comment begins where it stands. -/
theorem codePart_append_comment (outside : EndsOutside line) (plain : ¬HasComment line)
    (comment : List Char) : codePart (line ++ ' ' :: '#' :: comment) = line ++ [' '] := by
  have before : ∀ mark ∈ scan line, (!mark.startsComment) = true :=
    List.takeWhile_eq_self_iff.mp (codeMarks_eq_scan_iff.mpr plain)
  have behind : ((level (bracketDepth line)).marks (' ' :: '#' :: comment)).takeWhile
      (fun mark => !mark.startsComment) = [⟨' ', bracketDepth line, false⟩] := by
    rw [marks, marks, step_plain (by decide), mark_plain (by decide), mark_plain (by decide)]
    rfl
  rw [codePart, codeMarks, scan, marks_append, outside.run_eq, ← scan,
    List.takeWhile_append_of_pos before, behind, List.map_append, scan, map_char_marks]
  rfl

/-- A comment behind a line whose quotes are closed, or that has a comment already, changes nothing
of its code. -/
theorem cleanLine_append_comment (comment : List Char) (ready : EndsOutside line ∨ HasComment line) :
    cleanLine (line ++ ' ' :: '#' :: comment) = cleanLine line := by
  rw [cleanLine_eq_trim, cleanLine_eq_trim]
  by_cases commented : HasComment line
  · rw [codePart_append commented]
  · have outside := ready.resolve_right commented
    rw [codePart_append_comment outside commented, codePart_of_not_hasComment commented,
      Text.trim_append_blanks (by simp [Text.isBlank])]

end PinBudget.Source
