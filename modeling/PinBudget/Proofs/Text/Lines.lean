import PinBudget.Text.Lines

/-!
How a text divides into lines: characters that break no line belong to the line they stand on, and
a line feed divides a text into two whose lines do not mix.
-/
namespace PinBudget.Text

variable {text front : List Char}

/-- Characters that break no line are read into the line. -/
theorem linesAfter_of_plain (line : List Char) (plain : ∀ c ∈ text, isLineBreak c = false)
    (rest : List Char) :
    linesAfter line (text ++ rest) = linesAfter (text.reverse ++ line) rest := by
  induction text generalizing line with
  | nil => rfl
  | cons c text ih =>
    have own := plain c (List.mem_cons_self ..)
    have others : ∀ other ∈ text, isLineBreak other = false :=
      fun other member => plain other (List.mem_cons_of_mem _ member)
    rw [List.cons_append, linesAfter.eq_def]
    split
    · contradiction
    · -- The first half of a double break is itself a break.
      rename_i same
      obtain ⟨rfl, _⟩ := List.cons.inj same
      cases own
    · rename_i same
      obtain ⟨rfl, rfl⟩ := List.cons.inj same
      rw [own, if_neg Bool.false_ne_true, ih _ others]
      simp

theorem linesAfter_feed (line rest : List Char) :
    linesAfter line ('\n' :: rest) = line.reverse :: linesAfter [] rest := by
  rw [linesAfter.eq_def]
  rfl

theorem lines_cons (plain : ∀ c ∈ text, isLineBreak c = false) (rest : List Char) :
    lines (text ++ '\n' :: rest) = text :: lines rest := by
  rw [lines, linesAfter_of_plain _ plain, linesAfter_feed]
  simp [lines]

theorem lines_singleton (plain : ∀ c ∈ text, isLineBreak c = false) (code : text ≠ []) :
    lines text = [text] := by
  have read := linesAfter_of_plain [] plain []
  rw [List.append_nil, List.append_nil] at read
  rw [lines, read, linesAfter]
  simp [code]

/-- What a line feed ends is not mixed with what follows it. -/
theorem linesAfter_append (line front back : List Char) :
    linesAfter line (front ++ '\n' :: back) = linesAfter line (front ++ ['\n']) ++ lines back := by
  fun_induction linesAfter line front with
  | case1 | case2 =>
    rw [List.nil_append, List.nil_append, linesAfter_feed, linesAfter_feed]
    rfl
  | case3 line rest ih =>
    simp only [List.cons_append, linesAfter, ih]
  | case4 line c rest single broken ih =>
    by_cases double : c = '\r' ∧ rest = []
    · obtain ⟨rfl, rfl⟩ := double
      simp [linesAfter, lines]
    · have apart (more : List Char) : ∀ tail, c = '\r' → rest ++ '\n' :: more ≠ '\n' :: tail := by
        intro tail carriage same
        cases rest with
        | nil => exact double ⟨carriage, rfl⟩
        | cons d rest =>
          obtain ⟨rfl, rfl⟩ := List.cons.inj same
          exact single rest carriage rfl
      rw [List.cons_append, List.cons_append, linesAfter, linesAfter]
      simp only [broken, ↓reduceIte, ih, List.cons_append]
      · exact apart []
      · exact apart back
  | case5 line c rest single plain ih =>
    have own : ∀ other ∈ [c], isLineBreak other = false := by simpa using plain
    have read (more : List Char) := linesAfter_of_plain line own (rest ++ '\n' :: more)
    simp only [List.cons_append, List.nil_append, List.reverse_singleton] at read ⊢
    rw [read, read, ih]

/-- The lines of a text that is empty or ends in a line feed stay as they are when more follows. -/
theorem lines_append (ended : front = [] ∨ front.getLast? = some '\n') (back : List Char) :
    lines (front ++ back) = lines front ++ lines back := by
  rcases ended with rfl | last
  · rfl
  · obtain ⟨kept, rfl⟩ := List.getLast?_eq_some_iff.mp last
    rw [List.append_assoc, List.singleton_append, lines, linesAfter_append]
    rfl

/-- Lines as a text in which a line feed ends each of them. -/
def ofLines (lines : List (List Char)) : List Char :=
  lines.flatMap (· ++ ['\n'])

theorem lines_ofLines {all : List (List Char)}
    (unbroken : ∀ line ∈ all, ∀ c ∈ line, isLineBreak c = false) : lines (ofLines all) = all := by
  induction all with
  | nil => rfl
  | cons line rest ih =>
    have own := unbroken line (List.mem_cons_self ..)
    have others := ih fun other member => unbroken other (List.mem_cons_of_mem _ member)
    rw [ofLines, List.flatMap_cons, List.append_assoc, List.singleton_append, lines_cons own,
      ← ofLines, others]

end PinBudget.Text
