import Mathlib.Order.Bounds.Basic
import PinBudget.Proofs.Source.QuotedContent

/-!
The bracket that closes another one. A search from an opening bracket ends at the first bracket
behind it that brings the depth back to what it was before. So what stands between the two keeps its
brackets closed, and it is scanned alike on its own and in its place.
-/
namespace PinBudget.Source

open ScanState

variable {text front : List Char} {state : ScanState} {c : Char} {depth : Int}
variable {index opening closing place : Nat}

section FirstBehind

variable {α : Type} {test : α → Bool} {items : List α} {start count : Nat}

theorem isLeast_of_findIdx?_drop (found : (items.drop start).findIdx? test = some count) :
    IsLeast {index | start ≤ index ∧ items[index]?.any test = true} (count + start) := by
  obtain ⟨inside, passed, missed⟩ := List.findIdx?_eq_some_iff_getElem.mp found
  constructor
  · refine ⟨Nat.le_add_left .., ?_⟩
    rw [Nat.add_comm, ← List.getElem?_drop, List.getElem?_eq_getElem inside]
    exact passed
  · rintro index ⟨behind, passes⟩
    obtain ⟨place, rfl⟩ := Nat.exists_eq_add_of_le behind
    rw [← List.getElem?_drop] at passes
    by_contra early
    have sooner : place < count := by omega
    rw [List.getElem?_eq_getElem (Nat.lt_trans sooner inside)] at passes
    exact missed place sooner passes

theorem findIdx?_drop_eq_none_iff :
    (items.drop start).findIdx? test = none ↔
      ∀ index, start ≤ index → items[index]?.any test = false := by
  rw [List.findIdx?_eq_none_iff]
  constructor
  · intro missed index behind
    obtain ⟨place, rfl⟩ := Nat.exists_eq_add_of_le behind
    rw [← List.getElem?_drop]
    cases here : (items.drop start)[place]? with
    | none => rfl
    | some item => exact missed item (List.mem_of_getElem? here)
  · intro missed item member
    obtain ⟨place, here⟩ := List.mem_iff_getElem?.mp member
    rw [List.getElem?_drop] at here
    have failed := missed (start + place) (Nat.le_add_right ..)
    rwa [here] at failed

end FirstBehind

namespace ScanState

theorem getElem?_marks (state : ScanState) (text : List Char) (index : Nat) :
    (state.marks text)[index]? = text[index]?.map (state.run (text.take index)).mark := by
  induction text generalizing state index with
  | nil => rfl
  | cons c rest ih =>
    cases index with
    | zero => rfl
    | succ index => exact ih (state.step c) index

theorem take_marks (state : ScanState) (text : List Char) (count : Nat) :
    (state.marks text).take count = state.marks (text.take count) := by
  induction text generalizing state count with
  | nil => simp [marks]
  | cons c rest ih =>
    cases count with
    | zero => rfl
    | succ count => exact congrArg (state.mark c :: ·) (ih (state.step c) count)

theorem drop_marks (state : ScanState) (text : List Char) (count : Nat) :
    (state.marks text).drop count = (state.run (text.take count)).marks (text.drop count) := by
  induction text generalizing state count with
  | nil => simp [marks]
  | cons c rest ih =>
    cases count with
    | zero => rfl
    | succ count => exact ih (state.step c) count

theorem quote_of_unquoted (unquoted : (state.mark c).quoted = false) : state.quote = none := by
  simp only [mark, Bool.or_eq_false_iff] at unquoted
  exact Option.isNone_iff_eq_none.mp (Option.isSome_eq_false_iff.mp unquoted.1)

/-- Only where a bracket closes does the depth go down, and then by one. -/
theorem closesTo_of_depth_step_lt (lowered : (state.step c).depth < state.depth) :
    (state.step c).depth = state.depth - 1 ∧
      (state.mark c).closesTo (state.depth - 1) = true := by
  have closed : state.quote = none ∧ isQuote c = false ∧ isClosing c = true ∧
      (state.step c).depth = state.depth - 1 := by
    unfold step at lowered ⊢
    grind
  obtain ⟨outside, plain, closes, own⟩ := closed
  exact ⟨own, by simp [Mark.closesTo, mark, outside, plain, closes, own]⟩

theorem le_depth_step (deep : depth ≤ state.depth)
    (unclosed : (state.mark c).closesTo (depth - 1) = false) : depth ≤ (state.step c).depth := by
  by_contra below
  have lowered : (state.step c).depth < state.depth := by omega
  obtain ⟨own, closed⟩ := closesTo_of_depth_step_lt lowered
  have same : state.depth = depth := by omega
  rw [same, unclosed] at closed
  cases closed

/-- As long as no bracket closes below a bound, the depth does not go below it. -/
theorem le_depth_run (deep : depth ≤ state.depth)
    (unclosed : ∀ mark ∈ state.marks text, mark.closesTo (depth - 1) = false) :
    depth ≤ (state.run text).depth := by
  induction text generalizing state with
  | nil => exact deep
  | cons c rest ih =>
    rw [marks] at unclosed
    obtain ⟨own, others⟩ := List.forall_mem_cons.mp unclosed
    exact ih (le_depth_step deep own) others

theorem depth_run_level (depth : Int) (text : List Char) :
    ((level depth).run text).depth = bracketDepth text + depth := by
  rw [level_eq_deeper, run_deeper]
  rfl

end ScanState

/-- A scan of the text finds an opening bracket outside quotes at the index, and the depth there is
the given one. -/
def OpensAt (text : List Char) (depth : Int) (index : Nat) : Prop :=
  ∃ bracket, isOpening bracket = true ∧ (scan text)[index]? = some ⟨bracket, depth, false⟩

/-- A scan of the text finds a closing bracket outside quotes at the index, and the depth there is
the given one. -/
def ClosesAt (text : List Char) (depth : Int) (index : Nat) : Prop :=
  ∃ bracket, isClosing bracket = true ∧ (scan text)[index]? = some ⟨bracket, depth, false⟩

/-- Behind the opening bracket at an index, one closes that leaves the depth as it was before it. -/
def ClosesBehind (text : List Char) (opening index : Nat) : Prop :=
  opening < index ∧ ClosesAt text (bracketDepth (text.take opening)) index

/-- What stands strictly between two indices. -/
def between (text : List Char) (opening closing : Nat) : List Char :=
  (text.take closing).drop (opening + 1)

/-- The text closes all quotes and brackets that it opens, and no bracket that it does not open. -/
structure Balanced (text : List Char) : Prop where
  even : bracketDepth text = 0
  outside : EndsOutside text
  deep : ∀ front, front <+: text → 0 ≤ bracketDepth front

theorem closesAt_iff :
    ClosesAt text depth index ↔ (scan text)[index]?.any (Mark.closesTo depth) = true := by
  cases marked : (scan text)[index]? with
  | none => simp [ClosesAt, marked]
  | some mark =>
    obtain ⟨c, own, quoted⟩ := mark
    simp only [ClosesAt, marked, Option.some.injEq, Mark.mk.injEq, Option.any_some, Mark.closesTo,
      Bool.and_eq_true, Bool.not_eq_true', beq_iff_eq]
    constructor
    · rintro ⟨bracket, closes, rfl, rfl, rfl⟩
      exact ⟨⟨rfl, closes⟩, rfl⟩
    · rintro ⟨⟨rfl, closes⟩, rfl⟩
      exact ⟨c, closes, rfl, rfl, rfl⟩

theorem Mark.closesTo_deeper (depth offset : Int) (mark : Mark) :
    (mark.deeper offset).closesTo (depth + offset) = mark.closesTo depth := by
  have same : (mark.depth + offset == depth + offset) = (mark.depth == depth) := by
    rw [Bool.eq_iff_iff, beq_iff_eq, beq_iff_eq, Int.add_left_inj]
  simp only [closesTo, deeper, same]

theorem between_eq (text : List Char) (opening closing : Nat) :
    between text opening closing = (text.drop (opening + 1)).take (closing - (opening + 1)) :=
  List.drop_take

/-- A scan is outside quotes before a character that it reports as unquoted. -/
theorem run_take_of_unquoted (marked : (scan text)[index]? = some ⟨c, depth, false⟩) :
    ∃ before, ScanState.run {} (text.take index) = level before ∧
      ScanState.run {} (text.take (index + 1)) = (level before).step c ∧
      ((level before).step c).depth = depth := by
  rw [scan, getElem?_marks] at marked
  obtain ⟨d, here, made⟩ := Option.map_eq_some_iff.mp marked
  obtain rfl : d = c := congrArg Mark.char made
  have outside := quote_of_unquoted (congrArg Mark.quoted made)
  have before := ((sound_level 0).run (text.take index)).eq_level outside
  have reached : ((ScanState.run {} (text.take index)).step d).depth = depth :=
    congrArg Mark.depth made
  rw [before] at reached
  refine ⟨_, before, ?_, reached⟩
  rw [List.take_add_one, here, Option.toList_some, run_append, ← before]
  rfl

/-- Behind an opening bracket outside quotes, the text is scanned one level deeper than before
it. -/
theorem OpensAt.run_eq (opens : OpensAt text depth opening) :
    ScanState.run {} (text.take opening) = level (depth - 1) ∧
      ScanState.run {} (text.take (opening + 1)) = level depth := by
  obtain ⟨bracket, opens, marked⟩ := opens
  obtain ⟨before, outside, behind, reached⟩ := run_take_of_unquoted marked
  rw [level_step_opening opens] at behind reached
  obtain rfl : before + 1 = depth := reached
  exact ⟨by rw [outside, Int.add_sub_cancel], behind⟩

/-- In front of a closing bracket outside quotes, the text is scanned one level deeper than behind
it. -/
theorem ClosesAt.run_eq (closes : ClosesAt text depth closing) :
    ScanState.run {} (text.take closing) = level (depth + 1) := by
  obtain ⟨bracket, closes, marked⟩ := closes
  obtain ⟨before, outside, -, reached⟩ := run_take_of_unquoted marked
  rw [level_step_closing closes] at reached
  obtain rfl : before - 1 = depth := reached
  rw [outside, Int.sub_add_cancel]

namespace OpensAt

theorem bracketDepth_take (opens : OpensAt text depth opening) :
    bracketDepth (text.take opening) = depth - 1 := by
  rw [bracketDepth, opens.run_eq.1]

theorem drop_scan (opens : OpensAt text depth opening) :
    (scan text).drop (opening + 1) = (level depth).marks (text.drop (opening + 1)) := by
  rw [scan, drop_marks, opens.run_eq.2]

/-- What closes an opening bracket is what brings the depth back to what it was before. -/
theorem closesBehind_iff (opens : OpensAt text depth opening) :
    ClosesBehind text opening index ↔
      opening + 1 ≤ index ∧ (scan text)[index]?.any (Mark.closesTo (depth - 1)) = true := by
  rw [ClosesBehind, opens.bracketDepth_take, closesAt_iff, Nat.succ_le_iff]

theorem findClosing?_eq (opens : OpensAt text depth opening) :
    findClosing? text opening =
      (((scan text).drop (opening + 1)).findIdx? (Mark.closesTo (depth - 1))).map
        (· + (opening + 1)) := by
  obtain ⟨bracket, -, marked⟩ := opens
  rw [findClosing?_eq_bind, marked]
  rfl

theorem isLeast_of_findClosing? (opens : OpensAt text depth opening)
    (found : findClosing? text opening = some closing) :
    IsLeast {index | ClosesBehind text opening index} closing := by
  rw [opens.findClosing?_eq] at found
  obtain ⟨count, first, rfl⟩ := Option.map_eq_some_iff.mp found
  simp only [opens.closesBehind_iff]
  exact isLeast_of_findIdx?_drop first

theorem findClosing?_eq_none_iff (opens : OpensAt text depth opening) :
    findClosing? text opening = none ↔ ∀ index, ¬ClosesBehind text opening index := by
  rw [opens.findClosing?_eq, Option.map_eq_none_iff, findIdx?_drop_eq_none_iff]
  simp only [opens.closesBehind_iff, not_and, Bool.not_eq_true]

theorem findClosing?_eq_some_iff (opens : OpensAt text depth opening) :
    findClosing? text opening = some closing ↔
      IsLeast {index | ClosesBehind text opening index} closing := by
  constructor
  · exact opens.isLeast_of_findClosing?
  · intro least
    cases found : findClosing? text opening with
    | none => exact absurd least.1 (opens.findClosing?_eq_none_iff.mp found closing)
    | some other => rw [(opens.isLeast_of_findClosing? found).unique least]

variable (opens : OpensAt text depth opening)
variable (least : IsLeast {index | ClosesBehind text opening index} closing)

include opens

/-- Between the two brackets, a text is scanned as on its own, so many levels deeper. -/
theorem getElem?_scan_between {inner : Mark}
    (marked : (scan (between text opening closing))[place]? = some inner) :
    (scan text)[opening + 1 + place]? = some (inner.deeper depth) := by
  rw [between_eq, scan, ← take_marks, ← scan, List.getElem?_take] at marked
  obtain ⟨-, own⟩ := Option.ite_none_right_eq_some.mp marked
  rw [← List.getElem?_drop, opens.drop_scan, marks_level, List.getElem?_map, own]
  rfl

include least

/-- No bracket between the two closes more than what is opened between them: it would be found
first. -/
theorem unclosed_between : ∀ inner ∈ scan (between text opening closing),
    inner.closesTo (-1) = false := by
  intro inner member
  by_contra closed
  obtain ⟨place, marked⟩ := List.mem_iff_getElem?.mp member
  have closes : ClosesBehind text opening (opening + 1 + place) := by
    rw [opens.closesBehind_iff, opens.getElem?_scan_between marked, Option.any_some,
      show depth - 1 = -1 + depth by omega, Mark.closesTo_deeper]
    exact ⟨Nat.le_add_right .., by simpa using closed⟩
  have late : closing ≤ opening + 1 + place := least.2 closes
  obtain ⟨inside, -⟩ := List.getElem?_eq_some_iff.mp marked
  rw [length_scan, between_eq, List.length_take] at inside
  omega

theorem deep_between (begins : front <+: between text opening closing) :
    0 ≤ bracketDepth front := by
  obtain ⟨more, whole⟩ := begins
  refine le_depth_run (Int.le_refl 0) fun inner member => opens.unclosed_between least inner ?_
  rw [← whole, scan, marks_append]
  exact List.mem_append_left _ member

/-- From the one bracket to the other, a scan comes back to where it was. -/
theorem run_between : (level depth).run (between text opening closing) = level depth := by
  obtain ⟨⟨behind, closes⟩, -⟩ := least
  have whole : text.take closing = text.take (opening + 1) ++ between text opening closing := by
    have parts := (List.take_append_drop (opening + 1) (text.take closing)).symm
    rwa [List.take_take, Nat.min_eq_left behind] at parts
  have reached := closes.run_eq
  rw [whole, run_append, opens.run_eq.2, opens.bracketDepth_take] at reached
  rw [reached, Int.sub_add_cancel]

theorem balanced_between : Balanced (between text opening closing) := by
  have returned := opens.run_between least
  refine ⟨?_, ?_, fun _ => opens.deep_between least⟩
  · have even : depth = bracketDepth (between text opening closing) + depth := by
      rw [← depth_run_level, returned]
    omega
  · have quotes := congrArg ScanState.quote returned
    rwa [level_eq_deeper, run_deeper] at quotes

end OpensAt

end PinBudget.Source
