import Mathlib.Data.List.Basic
import PinBudget.Estimate.Timing
import PinBudget.Proofs.Usage.Holders

/-!
Blocking operations along the physical lines of a source. A scan records its method calls in order,
each on the first line of a statement. A line that carries blocking calls has these as its
operations, and any other line has what its text looks like.
-/
namespace PinBudget

open Source

section Keys

variable {α : Type} {key : α → Int} {items : List α}

/-- Ordered items begin with those of a key that none of them lies below. -/
private theorem filter_append_filter_of_ordered {least : Int}
    (ordered : items.Pairwise fun item later => key item ≤ key later)
    (above : ∀ item ∈ items, least ≤ key item) :
    (items.filter fun item => key item == least) ++ (items.filter fun item => key item != least) =
      items := by
  induction items with
  | nil => rfl
  | cons item rest ih =>
    obtain ⟨first, orderedRest⟩ := List.pairwise_cons.mp ordered
    obtain ⟨bound, boundRest⟩ := List.forall_mem_cons.mp above
    by_cases same : key item = least
    · have split := ih orderedRest boundRest
      simpa [same] using split
    · -- Behind an item above the key come only such items.
      have all : ∀ other ∈ item :: rest, key other ≠ least := by
        intro other member
        rcases List.mem_cons.mp member with rfl | later
        · exact same
        · have := first other later
          omega
      have none : ((item :: rest).filter fun other => key other == least) = [] := by
        apply List.filter_eq_nil_iff.mpr
        intro other member
        simpa using all other member
      have kept : ((item :: rest).filter fun other => key other != least) = item :: rest := by
        apply List.filter_eq_self.mpr
        intro other member
        simpa using all other member
      rw [none, kept, List.nil_append]

private theorem flatMap_filter_of_ordered {keys : List Nat} (increasing : keys.Pairwise (· < ·))
    (ordered : items.Pairwise fun item later => key item ≤ key later)
    (inside : ∀ item ∈ items, ∃ own ∈ keys, key item = (own : Nat)) :
    (keys.flatMap fun own : Nat => items.filter fun item => key item == (own : Int)) = items := by
  induction keys generalizing items with
  | nil =>
    cases items with
    | nil => rfl
    | cons item rest =>
      obtain ⟨own, member, _⟩ := inside item (List.mem_cons_self ..)
      cases member
  | cons first rest ih =>
    obtain ⟨bound, increasingRest⟩ := List.pairwise_cons.mp increasing
    have above : ∀ item ∈ items, (first : Int) ≤ key item := by
      intro item member
      obtain ⟨own, found, same⟩ := inside item member
      rcases List.mem_cons.mp found with rfl | later
      · omega
      · have := bound own later
        omega
    have further : ∀ item ∈ items.filter fun item => key item != (first : Int),
        ∃ own ∈ rest, key item = (own : Nat) := by
      intro item member
      obtain ⟨original, other⟩ := List.mem_filter.mp member
      obtain ⟨own, found, same⟩ := inside item original
      rcases List.mem_cons.mp found with rfl | later
      · simp [same] at other
      · exact ⟨own, later, same⟩
    have rest_eq : (rest.flatMap fun own : Nat => items.filter fun item => key item == (own : Int)) =
        items.filter fun item => key item != (first : Int) := by
      rw [← ih increasingRest (ordered.filter _) further]
      apply List.flatMap_congr
      intro own member
      rw [List.filter_filter]
      apply List.filter_congr
      intro item _
      have := bound own member
      by_cases same : key item = own
      · simp [same]
        omega
      · simp [same]
    rw [List.flatMap_cons, rest_eq, filter_append_filter_of_ordered ordered above]

end Keys

/-- A method call as the operation that it is charged as. -/
def MethodCall.operation (call : MethodCall) : String :=
  s!"{call.receiver}.{call.method}"

namespace LineTiming

variable {lines : List (List Char)} {calls : List MethodCall} {methods : List Json}
variable {number : Nat}

/-- Method calls as a scan of the lines records them: in order, each on the first line of a
statement. -/
structure Recorded (lines : List (List Char)) (calls : List MethodCall) : Prop where
  ordered : calls.Pairwise fun call later => call.line ≤ later.line
  begun : ∀ call ∈ calls, ∃ block ∈ blocksOf lines, call.line = block.first

theorem recorded_of_extract {text sourceId : String} {extraction : Extraction}
    (extracted : extract text sourceId = .ok extraction) :
    Recorded (Text.lines text.toList) extraction.methodCalls := by
  refine ⟨Extraction.pairwise_methodCalls extracted, ?_⟩
  intro call member
  obtain ⟨statement, found, line⟩ := Extraction.exists_statement_of_call extracted member
  exact ⟨statement.block _, List.mem_map_of_mem found, line⟩

/-- The blocking calls on a line. -/
def callsOn (methods : List Json) (calls : List MethodCall) (number : Nat) : List MethodCall :=
  (calls.filter (blocks methods)).filter fun call => call.line == (number : Int)

theorem attributed_eq (methods : List Json) (calls : List MethodCall) (number : Nat) :
    attributed methods calls number = (callsOn methods calls number).map MethodCall.operation := by
  rw [attributed, callsOn, List.filter_filter]
  rfl

theorem line_of_mem_callsOn {call : MethodCall} (member : call ∈ callsOn methods calls number) :
    call.line = number := by
  simpa using (List.mem_filter.mp member).2

theorem pairwise_zipIdx (lines : List (List Char)) (start : Nat) :
    (lines.zipIdx start).Pairwise fun line next => line.2 < next.2 := by
  have increasing : ((lines.zipIdx start).map Prod.snd).Pairwise (· < ·) := by
    rw [List.zipIdx_map_snd]
    exact List.pairwise_lt_range'
  exact List.pairwise_map.mp increasing

namespace Recorded

variable (recorded : Recorded lines calls)

include recorded

/-- A line with attributed calls begins a statement. -/
theorem exists_block (carries : attributed methods calls number ≠ []) :
    ∃ block ∈ blocksOf lines, block.first = number := by
  obtain ⟨operation, member⟩ := List.exists_mem_of_ne_nil _ carries
  rw [attributed_eq] at member
  obtain ⟨call, found, _⟩ := List.mem_map.mp member
  have made : call ∈ calls := (List.mem_filter.mp (List.mem_filter.mp found).1).1
  obtain ⟨block, own, line⟩ := recorded.begun call made
  refine ⟨block, own, ?_⟩
  have here := line_of_mem_callsOn found
  omega

theorem attributed_of_blank {index : Nat} {line : List Char} (found : lines[index]? = some line)
    (blank : cleanLine line = []) : attributed methods calls (index + 1) = [] := by
  by_cases carries : attributed methods calls (index + 1) = []
  · exact carries
  · obtain ⟨block, member, first⟩ := recorded.exists_block carries
    obtain ⟨own, begins, code⟩ := (fits_of_mem member).begins
    rw [first, Nat.add_sub_cancel, found] at begins
    cases begins
    exact absurd blank code

theorem attributed_of_further {block : Block} (member : block ∈ blocksOf lines)
    (covers : block.Covers number) (further : block.first < number) :
    attributed methods calls number = [] := by
  by_cases carries : attributed methods calls number = []
  · exact carries
  · obtain ⟨other, found, first⟩ := recorded.exists_block carries
    have shared : other.Covers number := ⟨Nat.le_of_eq first, by rw [Block.last]; omega⟩
    have same := block_eq_of_covers member found covers shared
    rw [same, first] at further
    exact absurd further (Nat.lt_irrefl _)

theorem flatMap_callsOn {α : Type} (methods : List Json) (view : MethodCall → α) :
    ((lines.zipIdx 1).flatMap fun line => (callsOn methods calls line.2).map view) =
      (calls.filter (blocks methods)).map view := by
  have numbers : (lines.zipIdx 1).map Prod.snd = List.range' 1 lines.length :=
    List.zipIdx_map_snd ..
  have increasing := List.pairwise_map.mpr (pairwise_zipIdx lines 1)
  have whole := flatMap_filter_of_ordered increasing (recorded.ordered.filter (blocks methods)) ?_
  · rw [List.flatMap_map] at whole
    rw [← List.map_flatMap]
    exact congrArg (List.map view) whole
  · intro call member
    obtain ⟨block, own, line⟩ := recorded.begun call (List.mem_filter.mp member).1
    have inside := (fits_of_mem own).inside
    have numbered := (fits_of_mem own).numbered
    refine ⟨block.first, ?_, line⟩
    rw [numbers, List.mem_range'_1]
    rw [Block.last] at inside
    omega

end Recorded

theorem operationsOf_of_carries {calls : Nat → List String} (carries : calls number ≠ [])
    (masked : List Char) : operationsOf calls number masked = calls number := by
  unfold operationsOf
  split
  · contradiction
  · rfl

theorem operationsOf_of_none {calls : Nat → List String} (none : calls number = [])
    (masked : List Char) :
    operationsOf calls number masked = (blockingText? masked).toList.map String.ofList := by
  rw [operationsOf, none]

/-- The blocking operations of a physical line with its number. -/
def operationsAt (calls : Nat → List String) (line : List Char × Nat) : List BlockingOperation :=
  (operationsOf calls line.2 (mask (cleanLine line.1))).map (BlockingOperation.mk line.2)

theorem line_of_mem_operationsAt {calls : Nat → List String} {line : List Char × Nat}
    {operation : BlockingOperation} (member : operation ∈ operationsAt calls line) :
    operation.line = line.2 := by
  obtain ⟨_, _, rfl⟩ := List.mem_map.mp member
  rfl

theorem filter_operationsAt (calls : Nat → List String) (lines : List (List Char))
    (start index : Nat) :
    (((lines.zipIdx start).flatMap (operationsAt calls)).filter fun operation =>
        operation.line == start + index) =
      lines[index]?.toList.flatMap fun line => operationsAt calls (line, start + index) := by
  induction lines generalizing start index with
  | nil => rfl
  | cons line rest ih =>
    rw [List.zipIdx_cons, List.flatMap_cons, List.filter_append]
    cases index with
    | zero =>
      have own : ((operationsAt calls (line, start)).filter fun operation =>
          operation.line == start + 0) = operationsAt calls (line, start) := by
        apply List.filter_eq_self.mpr
        intro operation member
        simp [line_of_mem_operationsAt member]
      have others : (((rest.zipIdx (start + 1)).flatMap (operationsAt calls)).filter
          fun operation => operation.line == start + 0) = [] := by
        apply List.filter_eq_nil_iff.mpr
        intro operation member
        obtain ⟨other, found, here⟩ := List.mem_flatMap.mp member
        have later := (List.le_snd_of_mem_zipIdx found)
        rw [line_of_mem_operationsAt here]
        simp
        omega
      rw [own, others, List.append_nil]
      simp
    | succ index =>
      have own : ((operationsAt calls (line, start)).filter fun operation =>
          operation.line == start + (index + 1)) = [] := by
        apply List.filter_eq_nil_iff.mpr
        intro operation member
        simp [line_of_mem_operationsAt member]
      rw [own, List.nil_append, List.getElem?_cons_succ, Nat.add_comm index 1, ← Nat.add_assoc]
      exact ih (start + 1) index

/-- Where a line carries attributed calls, its operations are these calls. -/
theorem operationsAt_of_carried (methods : List Json) (calls : List MethodCall)
    (line : List Char × Nat) :
    (((operationsAt (attributed methods calls) line).filter fun operation =>
      !(attributed methods calls operation.line).isEmpty).map fun operation =>
        ((operation.line : Int), operation.operation)) =
      (callsOn methods calls line.2).map fun call => (call.line, call.operation) := by
  by_cases none : attributed methods calls line.2 = []
  · have dropped : ((operationsAt (attributed methods calls) line).filter fun operation =>
        !(attributed methods calls operation.line).isEmpty) = [] := by
      apply List.filter_eq_nil_iff.mpr
      intro operation member
      simp [line_of_mem_operationsAt member, none]
    have empty : callsOn methods calls line.2 = [] := by
      rw [attributed_eq] at none
      exact List.map_eq_nil_iff.mp none
    rw [dropped, empty]
    rfl
  · have kept : ((operationsAt (attributed methods calls) line).filter fun operation =>
        !(attributed methods calls operation.line).isEmpty) =
          operationsAt (attributed methods calls) line := by
      apply List.filter_eq_self.mpr
      intro operation member
      simp [line_of_mem_operationsAt member, none]
    rw [kept, operationsAt, operationsOf_of_carries none, attributed_eq, List.map_map, List.map_map]
    apply List.map_congr_left
    intro call member
    simp [line_of_mem_callsOn member]

/-- The text of a physical line looks like a blocking call. -/
def looksBlocking (line : List Char) : Bool :=
  (blockingText? (mask (cleanLine line))).isSome

/-- A line is charged for what its text looks like: it carries no call. -/
def fallsBack (calls : Nat → List String) (line : List Char × Nat) : Bool :=
  (calls line.2).isEmpty && looksBlocking line.1

/-- A line that falls back has what it looks like, and any other line its calls. -/
theorem map_operationsAt (calls : Nat → List String) (line : List Char × Nat) :
    (operationsAt calls line).map BlockingOperation.operation =
      if fallsBack calls line then
        (blockingText? (mask (cleanLine line.1))).toList.map String.ofList
      else calls line.2 := by
  rw [operationsAt, List.map_map, fallsBack, looksBlocking]
  by_cases none : calls line.2 = []
  · rw [operationsOf_of_none none, none]
    cases blockingText? (mask (cleanLine line.1)) <;> rfl
  · rw [operationsOf_of_carries none, List.isEmpty_eq_false_iff.mpr none]
    exact List.map_id _

/-- A line has the operations of its calls, and one if it falls back. -/
theorem length_operationsAt (calls : Nat → List String) (line : List Char × Nat) :
    (operationsAt calls line).length =
      (calls line.2).length + if fallsBack calls line then 1 else 0 := by
  have shown := congrArg List.length (map_operationsAt calls line)
  rw [List.length_map] at shown
  rw [shown]
  split
  · rename_i falls
    obtain ⟨none, looks⟩ := Bool.and_eq_true_iff.mp falls
    obtain ⟨found, same⟩ := Option.isSome_iff_exists.mp looks
    rw [List.isEmpty_iff.mp none, same]
    rfl
  · rfl

theorem length_flatMap_operationsAt (calls : Nat → List String)
    (lines : List (List Char × Nat)) :
    (lines.flatMap (operationsAt calls)).length =
      (lines.flatMap fun line => calls line.2).length + lines.countP (fallsBack calls) := by
  induction lines with
  | nil => rfl
  | cons line rest ih =>
    rw [List.flatMap_cons, List.flatMap_cons, List.length_append, List.length_append,
      List.countP_cons, ih, length_operationsAt]
    omega

end LineTiming

end PinBudget
