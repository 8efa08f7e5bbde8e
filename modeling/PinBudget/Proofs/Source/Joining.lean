import PinBudget.Source.Statement

/-!
Statements of consecutive groups of lines. A statement looks at no line before its own, and it waits
for the lines behind its group only while its brackets are open and it may still take lines; where
the last statement of a group does not wait, the statements of the two groups stand side by side.
-/
namespace PinBudget.Source

variable {budget number : Nat} {text line : List Char} {lines front back : List (List Char)}

/-- The same statement further down. -/
def Statement.later (offset : Nat) (statement : Statement) : Statement :=
  { statement with line := statement.line + offset }

/-- The further lines that a statement takes, where the lines are numbered from a number on. -/
def takenBy (number : Nat) (lines : List (List Char)) (statement : Statement) : Nat :=
  match lines.drop (statement.line - number) with
  | [] => 0
  | first :: rest => (joinLines continuationLimit (cleanLine first) rest).taken

/-- The last statement of the lines, if there is one, waits for no line behind them: its brackets
are closed, or it has taken all the lines that it may. -/
def Complete (number : Nat) (lines : List (List Char)) : Prop :=
  ∀ statement, (statementsFrom number lines).getLast? = some statement →
    bracketDepth statement.text ≤ 0 ∨ takenBy number lines statement = continuationLimit

theorem rest_joinLines (budget : Nat) (text : List Char) (lines : List (List Char)) :
    (joinLines budget text lines).rest = lines.drop (joinLines budget text lines).taken := by
  fun_induction joinLines budget text lines with
  | case1 text budget line rest waiting joined ih => simpa using ih
  | case2 | case3 => rfl

theorem joinLines_of_closed (closed : bracketDepth text ≤ 0) (budget : Nat)
    (lines : List (List Char)) : joinLines budget text lines = ⟨text, 0, lines⟩ := by
  rw [joinLines.eq_def]
  split
  · rw [if_neg (by omega)]
  · rfl

theorem joinLines_zero (text : List Char) (lines : List (List Char)) :
    joinLines 0 text lines = ⟨text, 0, lines⟩ := by
  simp [joinLines]

/-- A statement that does not wait at the end of some lines takes none of the lines behind them. -/
theorem joinLines_append (back : List (List Char))
    (settled : (joinLines budget text lines).rest ≠ [] ∨
      bracketDepth (joinLines budget text lines).text ≤ 0 ∨
      (joinLines budget text lines).taken = budget) :
    joinLines budget text (lines ++ back) =
      { joinLines budget text lines with rest := (joinLines budget text lines).rest ++ back } := by
  fun_induction joinLines budget text lines with
  | case1 text budget line rest waiting joined ih =>
    have inner : joined.rest ≠ [] ∨ bracketDepth joined.text ≤ 0 ∨ joined.taken = budget :=
      settled.imp_right (Or.imp_right Nat.succ.inj)
    rw [List.cons_append, joinLines, if_pos waiting, ih inner]
  | case2 text budget line rest closed =>
    exact joinLines_of_closed (by omega) _ _
  | case3 budget text lines stop =>
    rcases settled with left | closed | spent
    · -- Lines are left although the brackets are open, so nothing may be taken.
      cases budget with
      | zero => exact joinLines_zero _ _
      | succ budget =>
        obtain ⟨line, rest, rfl⟩ := List.exists_cons_of_ne_nil left
        exact (stop _ _ _ rfl rfl).elim
    · exact joinLines_of_closed closed _ _
    · cases spent
      exact joinLines_zero _ _

theorem statementsFrom_blank (blank : (cleanLine line).isEmpty = true) (number : Nat)
    (lines : List (List Char)) :
    statementsFrom number (line :: lines) = statementsFrom (number + 1) lines := by
  rw [statementsFrom]
  simp [blank]

theorem statementsFrom_code (code : (cleanLine line).isEmpty = false) (number : Nat)
    (lines : List (List Char)) :
    statementsFrom number (line :: lines) =
      ⟨number, (joinLines continuationLimit (cleanLine line) lines).text⟩ ::
        statementsFrom (number + 1 + (joinLines continuationLimit (cleanLine line) lines).taken)
          (joinLines continuationLimit (cleanLine line) lines).rest := by
  rw [statementsFrom]
  simp [code]

theorem le_line_of_mem {statement : Statement} (member : statement ∈ statementsFrom number lines) :
    number ≤ statement.line := by
  fun_induction statementsFrom number lines with
  | case1 => cases member
  | case2 number line rest code blank ih =>
    have := ih member
    omega
  | case3 number line rest code blank joined ih =>
    rcases List.mem_cons.mp member with rfl | later
    · exact Nat.le_refl _
    · have := ih later
      omega

theorem statementsFrom_add (number offset : Nat) (lines : List (List Char)) :
    statementsFrom (number + offset) lines =
      (statementsFrom number lines).map (Statement.later offset) := by
  fun_induction statementsFrom number lines with
  | case1 => simp [statementsFrom]
  | case2 number line rest code blank ih =>
    rw [statementsFrom_blank blank, ← ih]
    congr 1
    omega
  | case3 number line rest code blank joined ih =>
    have begun : (cleanLine line).isEmpty = false := by simpa using blank
    have moved : number + offset + 1 + joined.taken = number + 1 + joined.taken + offset := by omega
    rw [statementsFrom_code begun, List.map_cons, ← ih, moved]
    rfl

theorem Complete.blank (complete : Complete number (line :: lines))
    (blank : (cleanLine line).isEmpty = true) : Complete (number + 1) lines := by
  intro statement last
  rw [Complete, statementsFrom_blank blank] at complete
  have bound := le_line_of_mem (List.mem_of_getLast? last)
  have same : takenBy number (line :: lines) statement = takenBy (number + 1) lines statement := by
    unfold takenBy
    rw [show statement.line - number = statement.line - (number + 1) + 1 by omega,
      List.drop_succ_cons]
  rw [← same]
  exact complete statement last

theorem Complete.code (complete : Complete number (line :: lines))
    (code : (cleanLine line).isEmpty = false) :
    let joined := joinLines continuationLimit (cleanLine line) lines
    (joined.rest ≠ [] ∨ bracketDepth joined.text ≤ 0 ∨ joined.taken = continuationLimit) ∧
      Complete (number + 1 + joined.taken) joined.rest := by
  intro joined
  rw [Complete, statementsFrom_code code] at complete
  cases tail : statementsFrom (number + 1 + joined.taken) joined.rest with
  | nil =>
    have last := complete ⟨number, joined.text⟩ (by rw [tail]; rfl)
    simp only [takenBy, Nat.sub_self, List.drop_zero] at last
    refine ⟨.inr last, ?_⟩
    intro statement found
    rw [tail] at found
    cases found
  | cons next others =>
    have left : joined.rest ≠ [] := by
      intro none
      rw [none, statementsFrom] at tail
      cases tail
    refine ⟨.inl left, ?_⟩
    intro statement last
    have bound := le_line_of_mem (List.mem_of_getLast? last)
    have same : takenBy number (line :: lines) statement =
        takenBy (number + 1 + joined.taken) joined.rest statement := by
      unfold takenBy
      rw [show statement.line - number =
          joined.taken + (statement.line - (number + 1 + joined.taken)) + 1 by omega,
        List.drop_succ_cons, ← List.drop_drop, ← rest_joinLines]
    rw [← same]
    apply complete
    rw [List.getLast?_cons, last]
    rfl

/-- Lines whose last statement does not wait, and the lines behind them, have their statements side
by side. -/
theorem statementsFrom_append (back : List (List Char)) (complete : Complete number front) :
    statementsFrom number (front ++ back) =
      statementsFrom number front ++ statementsFrom (number + front.length) back := by
  fun_induction statementsFrom number front with
  | case1 => rfl
  | case2 number line rest code blank ih =>
    rw [List.cons_append, statementsFrom_blank blank, ih (complete.blank blank), List.length_cons]
    congr 2
    omega
  | case3 number line rest code blank joined ih =>
    have begun : (cleanLine line).isEmpty = false := by simpa using blank
    obtain ⟨settled, remaining⟩ := complete.code begun
    have counted : joined.taken + joined.rest.length = rest.length :=
      taken_add_length_joinLines continuationLimit (cleanLine line) rest
    have reached : number + 1 + joined.taken + joined.rest.length =
        number + (line :: rest).length := by
      rw [List.length_cons]
      omega
    rw [List.cons_append, statementsFrom_code begun, joinLines_append back settled,
      ih remaining, reached]
    rfl

end PinBudget.Source
