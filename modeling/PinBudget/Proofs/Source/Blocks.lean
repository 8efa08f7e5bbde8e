import Mathlib.Data.List.Pairwise
import PinBudget.Proofs.Source.Joining
import PinBudget.Source.CodeLine

/-!
The physical lines of statements. Each statement is the code of a block of consecutive lines: the
fewest that close its brackets, as far as there are lines and a statement may take them. The blocks
follow one another without overlap, and every line with code on it is in one of them.
-/
namespace PinBudget.Source

/-- The code of some lines on one line, with a space between one and the next. -/
def joinCode (lines : List (List Char)) : List Char :=
  [' '].intercalate (lines.map cleanLine)

/-- Consecutive physical lines: the number of the first one, and how many follow it. -/
structure Block where
  first : Nat
  further : Nat
  deriving DecidableEq, Repr

namespace Block

def last (block : Block) : Nat :=
  block.first + block.further

/-- The line with a number is in the block. -/
def Covers (block : Block) (number : Nat) : Prop :=
  block.first ≤ number ∧ number ≤ block.last

instance (block : Block) (number : Nat) : Decidable (block.Covers number) :=
  inferInstanceAs (Decidable (_ ∧ _))

/-- The lines of a block. -/
def part (lines : List (List Char)) (block : Block) : List (List Char) :=
  (lines.drop (block.first - 1)).take (block.further + 1)

/-- The statement that the lines of a block make. -/
def statement (lines : List (List Char)) (block : Block) : Statement :=
  ⟨block.first, joinCode (block.part lines)⟩

/-- A statement may end with the block: its brackets are closed, or it has taken as many lines as it
may, or there are no more. -/
def MayEnd (lines : List (List Char)) (block : Block) : Prop :=
  bracketDepth (joinCode (block.part lines)) ≤ 0 ∨ block.further = continuationLimit ∨
    block.last = lines.length

/-- The block is one of the lines, begins with code, and ends where a statement first may. -/
structure Fits (lines : List (List Char)) (block : Block) : Prop where
  numbered : 1 ≤ block.first
  inside : block.last ≤ lines.length
  begins : ∃ line, lines[block.first - 1]? = some line ∧ cleanLine line ≠ []
  limited : block.further ≤ continuationLimit
  ended : block.MayEnd lines
  least : ∀ fewer < block.further, ¬(Block.mk block.first fewer).MayEnd lines

end Block

/-- The lines of a statement. -/
def Statement.block (lines : List (List Char)) (statement : Statement) : Block :=
  ⟨statement.line, takenBy 1 lines statement⟩

def blocksOf (lines : List (List Char)) : List Block :=
  (statementsFrom 1 lines).map (Statement.block lines)

/-- A text with the code of further lines behind it, each after a space. -/
def continued (text : List Char) (lines : List (List Char)) : List Char :=
  text ++ lines.flatMap fun line => ' ' :: cleanLine line

theorem continued_nil (text : List Char) : continued text [] = text := by
  simp [continued]

theorem continued_cons (text line : List Char) (lines : List (List Char)) :
    continued text (line :: lines) = continued (text ++ ' ' :: cleanLine line) lines := by
  simp [continued]

theorem joinCode_cons (line : List Char) (lines : List (List Char)) :
    joinCode (line :: lines) = continued (cleanLine line) lines := by
  induction lines generalizing line with
  | nil => simp [joinCode, continued]
  | cons next rest ih =>
    have tail := ih next
    rw [joinCode, List.map_cons, continued] at tail
    rw [joinCode, List.map_cons, List.map_cons, List.intercalate_cons_cons, tail, continued]
    simp

section JoinLines

variable (budget : Nat) (text : List Char) (lines : List (List Char))

theorem text_joinLines : (joinLines budget text lines).text =
    continued text (lines.take (joinLines budget text lines).taken) := by
  fun_induction joinLines budget text lines with
  | case1 text budget line rest waiting joined ih =>
    rw [List.take_succ_cons, continued_cons]
    exact ih
  | case2 | case3 => rw [List.take_zero, continued_nil]

theorem taken_joinLines_le : (joinLines budget text lines).taken ≤ budget := by
  fun_induction joinLines budget text lines with
  | case1 text budget line rest waiting joined ih => exact Nat.succ_le_succ ih
  | case2 | case3 => exact Nat.zero_le _

/-- A statement takes a further line only while its brackets are open. -/
theorem open_joinLines : ∀ fewer < (joinLines budget text lines).taken,
    0 < bracketDepth (continued text (lines.take fewer)) := by
  fun_induction joinLines budget text lines with
  | case1 text budget line rest waiting joined ih =>
    intro fewer before
    cases fewer with
    | zero => rwa [List.take_zero, continued_nil]
    | succ fewer =>
      rw [List.take_succ_cons, continued_cons]
      exact ih fewer (Nat.lt_of_succ_lt_succ before)
  | case2 | case3 =>
    intro fewer before
    exact absurd before (Nat.not_lt_zero _)

theorem stop_joinLines : bracketDepth (joinLines budget text lines).text ≤ 0 ∨
    (joinLines budget text lines).taken = budget ∨
    (joinLines budget text lines).taken = lines.length := by
  fun_induction joinLines budget text lines with
  | case1 text budget line rest waiting joined ih =>
    rcases ih with closed | spent | exhausted
    · exact .inl closed
    · exact .inr (.inl (congrArg Nat.succ spent))
    · exact .inr (.inr (congrArg Nat.succ exhausted))
  | case2 text budget line rest closed => exact .inl (Int.not_lt.mp closed)
  | case3 budget text lines stop =>
    cases budget with
    | zero => exact .inr (.inl rfl)
    | succ budget =>
      cases lines with
      | nil => exact .inr (.inr rfl)
      | cons line rest => exact (stop _ _ _ rfl rfl).elim

end JoinLines

variable {number : Nat} {lines : List (List Char)} {statement : Statement}

/-- A statement begins with a line of code and takes the lines that joining takes from there. -/
theorem exists_lines_of_mem (member : statement ∈ statementsFrom number lines) :
    ∃ line rest, lines.drop (statement.line - number) = line :: rest ∧
      cleanLine line ≠ [] ∧
      statement.text = (joinLines continuationLimit (cleanLine line) rest).text := by
  fun_induction statementsFrom number lines with
  | case1 => cases member
  | case2 number line rest code blank ih =>
    have bound := le_line_of_mem member
    have shift : statement.line - number = statement.line - (number + 1) + 1 := by omega
    rw [shift, List.drop_succ_cons]
    exact ih member
  | case3 number line rest code blank joined ih =>
    rcases List.mem_cons.mp member with rfl | later
    · refine ⟨line, rest, ?_, by simpa using blank, rfl⟩
      rw [Nat.sub_self, List.drop_zero]
    · have bound := le_line_of_mem later
      have shift : statement.line - number =
          joined.taken + (statement.line - (number + 1 + joined.taken)) + 1 := by omega
      rw [shift, List.drop_succ_cons, ← List.drop_drop, ← rest_joinLines]
      exact ih later

/-- The lines of a statement are those that joining takes from its first line on. -/
theorem further_block {line : List Char} {rest : List (List Char)}
    (found : lines.drop (statement.line - 1) = line :: rest) :
    (statement.block lines).further =
      (joinLines continuationLimit (cleanLine line) rest).taken := by
  rw [Statement.block, takenBy, found]

theorem joinCode_part {line : List Char} {rest : List (List Char)} {block : Block}
    (found : lines.drop (block.first - 1) = line :: rest) :
    joinCode (block.part lines) = continued (cleanLine line) (rest.take block.further) := by
  rw [Block.part, found, List.take_succ_cons, joinCode_cons]

theorem statement_block (member : statement ∈ statementsFrom 1 lines) :
    (statement.block lines).statement lines = statement := by
  obtain ⟨line, rest, found, _, text⟩ := exists_lines_of_mem member
  have joined : joinCode ((statement.block lines).part lines) = statement.text := by
    rw [joinCode_part found, further_block found, text, text_joinLines]
  rw [Block.statement, joined]
  rfl

theorem fits_block (member : statement ∈ statementsFrom 1 lines) :
    (statement.block lines).Fits lines := by
  obtain ⟨line, rest, found, code, text⟩ := exists_lines_of_mem member
  have first : (statement.block lines).first = statement.line := rfl
  have further := further_block found
  have numbered : 1 ≤ statement.line := le_line_of_mem member
  have length : lines.length = statement.line + rest.length := by
    have counted := congrArg List.length found
    rw [List.length_drop, List.length_cons] at counted
    omega
  have taken := taken_add_length_joinLines continuationLimit (cleanLine line) rest
  constructor
  case numbered => exact numbered
  case inside =>
    rw [Block.last, first, further]
    omega
  case begins =>
    refine ⟨line, ?_, code⟩
    rw [← List.head?_drop, first, found]
    rfl
  case limited =>
    rw [further]
    exact taken_joinLines_le ..
  case ended =>
    rw [Block.MayEnd, joinCode_part found, further, ← text_joinLines, Block.last, first, further]
    rcases stop_joinLines continuationLimit (cleanLine line) rest with closed | spent | exhausted
    · exact .inl closed
    · exact .inr (.inl spent)
    · exact .inr (.inr (by omega))
  case least =>
    intro fewer before
    have limited : (statement.block lines).further ≤ continuationLimit := by
      rw [further]
      exact taken_joinLines_le ..
    have waiting := open_joinLines continuationLimit (cleanLine line) rest fewer (further ▸ before)
    rw [Block.MayEnd, joinCode_part found, Block.last]
    dsimp only
    omega

section Order

variable {all rest : List (List Char)} {line : List Char}

private theorem drop_behind (counted : 1 ≤ number) (reached : all.drop (number - 1) = line :: rest)
    (further : Nat) : all.drop (number + 1 + further - 1) = rest.drop further := by
  have shift : number + 1 + further - 1 = number - 1 + (further + 1) := by omega
  rw [shift, ← List.drop_drop, reached, List.drop_succ_cons]

theorem pairwise_block (counted : 1 ≤ number) (reached : all.drop (number - 1) = lines) :
    (statementsFrom number lines).Pairwise fun statement later =>
      (statement.block all).last < later.line := by
  fun_induction statementsFrom number lines with
  | case1 => exact .nil
  | case2 number line rest code blank ih =>
    exact ih (by omega) (drop_behind counted reached 0)
  | case3 number line rest code blank joined ih =>
    have behind := ih (by omega)
      ((drop_behind counted reached joined.taken).trans (rest_joinLines ..).symm)
    refine .cons ?_ behind
    intro later member
    have own : (Statement.block all ⟨number, joined.text⟩).last = number + joined.taken :=
      congrArg (number + ·) (further_block reached)
    have bound := le_line_of_mem member
    omega

/-- A line with code on it is in the block of a statement. -/
theorem exists_block_of_code (counted : 1 ≤ number) (reached : all.drop (number - 1) = lines)
    {index : Nat} (reaches : number ≤ index + 1) (found : all[index]? = some line)
    (code : cleanLine line ≠ []) :
    ∃ statement ∈ statementsFrom number lines, (statement.block all).Covers (index + 1) := by
  fun_induction statementsFrom number lines with
  | case1 number =>
    have short := List.drop_eq_nil_iff.mp reached
    have long := (List.getElem?_eq_some_iff.mp found).1
    omega
  | case2 number first rest clean blank ih =>
    rcases Nat.lt_or_eq_of_le reaches with later | here
    · exact ih (by omega) (drop_behind counted reached 0) later
    · -- The line itself has no code.
      have own : all[number - 1]? = some first := by
        rw [← List.head?_drop, reached]
        rfl
      rw [here, Nat.add_sub_cancel, found] at own
      cases own
      exact absurd (List.isEmpty_iff.mp blank) code
  | case3 number first rest clean blank joined ih =>
    have own : (Statement.block all ⟨number, joined.text⟩).last = number + joined.taken :=
      congrArg (number + ·) (further_block reached)
    by_cases inside : index + 1 ≤ number + joined.taken
    · exact ⟨_, List.mem_cons_self .., reaches, own ▸ inside⟩
    · obtain ⟨statement, member, covers⟩ := ih (by omega)
        ((drop_behind counted reached joined.taken).trans (rest_joinLines ..).symm) (by omega)
      exact ⟨statement, List.mem_cons_of_mem _ member, covers⟩

end Order

theorem pairwise_blocksOf (lines : List (List Char)) :
    (blocksOf lines).Pairwise fun block later => block.last < later.first :=
  List.pairwise_map.mpr (pairwise_block (Nat.le_refl 1) rfl)

theorem block_eq_of_covers {block other : Block} (member : block ∈ blocksOf lines)
    (partner : other ∈ blocksOf lines) (covers : block.Covers number)
    (shared : other.Covers number) : block = other := by
  have apart : (blocksOf lines).Pairwise fun block other =>
      ∀ number, block.Covers number → ¬other.Covers number := by
    refine (pairwise_blocksOf lines).imp ?_
    intro block later before number covers shared
    exact absurd (Nat.lt_of_le_of_lt covers.2 before) (Nat.not_lt.mpr shared.1)
  by_cases same : block = other
  · exact same
  · have symmetric : Std.Symm fun block other : Block =>
        ∀ number, block.Covers number → ¬other.Covers number :=
      ⟨fun _ _ disjoint number shared covers => disjoint number covers shared⟩
    exact absurd shared (apart.forall member partner same number covers)

theorem pairwise_line_statements (text : List Char) :
    (statements text).Pairwise fun statement later => statement.line < later.line := by
  refine (pairwise_block (Nat.le_refl 1) rfl).imp ?_
  intro statement later before
  exact Nat.lt_of_le_of_lt (Nat.le_add_right _ _) before

theorem fits_of_mem {block : Block} (member : block ∈ blocksOf lines) : block.Fits lines := by
  obtain ⟨statement, own, rfl⟩ := List.mem_map.mp member
  exact fits_block own

/-- What is gathered from the code lines is gathered from all lines, if lines without code give
nothing. -/
theorem flatMap_codeLinesFrom {α : Type} {gather : CodeLine → List α}
    (blank : ∀ index line, lines[index]? = some line → cleanLine line = [] →
      gather ⟨number + index, []⟩ = []) :
    (codeLinesFrom number lines).flatMap gather =
      (lines.zipIdx number).flatMap fun line => gather ⟨line.2, cleanLine line.1⟩ := by
  induction lines generalizing number with
  | nil => rfl
  | cons line rest ih =>
    have others : ∀ index other, rest[index]? = some other → cleanLine other = [] →
        gather ⟨number + 1 + index, []⟩ = [] := by
      intro index other found empty
      rw [Nat.add_assoc, Nat.add_comm 1]
      exact blank (index + 1) other found empty
    rw [codeLinesFrom, List.zipIdx_cons, List.flatMap_cons, ← ih others]
    dsimp only
    by_cases empty : cleanLine line = []
    · have none := blank 0 line rfl empty
      rw [Nat.add_zero] at none
      rw [empty, none]
      rfl
    · simp [empty]

/-- The statements of a text partition the lines that have code on them. Each statement is a block
of lines, joined by spaces, that begins with code and has the fewest lines after which it may end;
the blocks come in order and do not overlap, and the lines outside them have no code. So the line
numbers of the statements increase, and every line with code on it is in exactly one statement. -/
theorem statements_partition_lines (text : List Char) :
    let lines := Text.lines text
    statements text = (blocksOf lines).map (Block.statement lines) ∧
      (∀ block ∈ blocksOf lines, block.Fits lines) ∧
      ((blocksOf lines).Pairwise fun block later => block.last < later.first) ∧
      (∀ index line, lines[index]? = some line →
        (∀ block ∈ blocksOf lines, ¬block.Covers (index + 1)) → cleanLine line = []) ∧
      ((statements text).Pairwise fun statement later => statement.line < later.line) ∧
      ∀ index line, lines[index]? = some line → cleanLine line ≠ [] →
        ∃ block ∈ blocksOf lines, block.Covers (index + 1) ∧
          ∀ other ∈ blocksOf lines, other.Covers (index + 1) → other = block := by
  intro lines
  have covered (index : Nat) (line : List Char) (found : lines[index]? = some line)
      (code : cleanLine line ≠ []) : ∃ block ∈ blocksOf lines, block.Covers (index + 1) := by
    obtain ⟨statement, member, covers⟩ :=
      exists_block_of_code (Nat.le_refl 1) rfl (Nat.le_add_left 1 index) found code
    exact ⟨statement.block lines, List.mem_map_of_mem member, covers⟩
  refine ⟨?_, ?_, pairwise_blocksOf lines, ?_, pairwise_line_statements text, ?_⟩
  · have each : (statementsFrom 1 lines).map (Block.statement lines ∘ Statement.block lines) =
        (statementsFrom 1 lines).map id :=
      List.map_congr_left fun statement member => statement_block member
    rw [blocksOf, List.map_map, each, List.map_id]
    rfl
  · intro block member
    exact fits_of_mem member
  · intro index line found outside
    by_cases code : cleanLine line = []
    · exact code
    · obtain ⟨block, member, covers⟩ := covered index line found code
      exact absurd covers (outside block member)
  · intro index line found code
    obtain ⟨block, member, covers⟩ := covered index line found code
    exact ⟨block, member, covers,
      fun other partner shared => block_eq_of_covers partner member shared covers⟩

example : blocksOf (Text.lines "pins = [1,\n\n  2]\n# free\nuse(pins)\n".toList) =
    [⟨1, 2⟩, ⟨5, 0⟩] := by decide +kernel

end PinBudget.Source
