import Mathlib.Algebra.BigOperators.Group.List.Basic
import Mathlib.Algebra.GroupWithZero.Nat
import PinBudget.Proofs.Analysis.Constructors
import PinBudget.Proofs.Analysis.Discretion
import PinBudget.Proofs.Source.Blocks
import PinBudget.Proofs.Usage.ArgumentText

/-!
Constructions counted twice: once as the events of the statements of a source, once as the objects
of its physical lines. Where every line closes its quotes, the two counts differ by the constructors
whose parenthesis is left open.
-/
namespace PinBudget

open Source

variable {name text code : List Char} {kind : Kind} {lines : List (List Char)}

/-- Where the constructors of a kind end in code. -/
def constructorEnds (kind : Kind) (code : List Char) : List Nat :=
  endsFrom kind.name.toList none 0 (mask code)

/-- How often a masked text constructs a class. -/
def constructorCount (name masked : List Char) : Nat :=
  (endsFrom name none 0 masked).length

theorem constructorCount_join (name first second : List Char) :
    constructorCount name (first ++ ' ' :: second) =
      constructorCount name first + constructorCount name second := by
  rw [constructorCount, endsFrom_join, List.length_append, length_endsFrom name second]
  rfl

namespace Source

theorem mask_join (outside : EndsOutside text) (line : List Char) :
    mask (text ++ ' ' :: line) = mask text ++ ' ' :: mask line := by
  rw [mask, SameCode.scan_join outside, List.map_append, List.map_cons, List.map_map]
  rfl

variable (outside : ∀ line ∈ lines, EndsOutside (cleanLine line))

include outside

theorem constructorCount_continued (ended : EndsOutside text) :
    constructorCount name (mask (continued text lines)) = constructorCount name (mask text) +
      (lines.map fun line => constructorCount name (mask (cleanLine line))).sum := by
  induction lines generalizing text with
  | nil => rw [continued_nil]; rfl
  | cons line rest ih =>
    obtain ⟨own, others⟩ := List.forall_mem_cons.mp outside
    rw [continued_cons, ih others (SameCode.endsOutside_join ended own), mask_join ended,
      constructorCount_join, List.map_cons, List.sum_cons, Nat.add_assoc]

theorem constructorCount_statementsFrom (name : List Char) (number : Nat) :
    ((statementsFrom number lines).map fun statement =>
        constructorCount name (mask statement.text)).sum =
      (lines.map fun line => constructorCount name (mask (cleanLine line))).sum := by
  fun_induction statementsFrom number lines with
  | case1 => rfl
  | case2 number line rest first blank ih =>
    obtain ⟨_, others⟩ := List.forall_mem_cons.mp outside
    have none_ : constructorCount name (mask (cleanLine line)) = 0 := by
      have empty : cleanLine line = [] := List.isEmpty_iff.mp blank
      rw [empty]
      rfl
    rw [ih others, List.map_cons, List.sum_cons, none_, Nat.zero_add]
  | case3 number line rest first code joined ih =>
    obtain ⟨own, others⟩ := List.forall_mem_cons.mp outside
    have text : joined.text = continued first (rest.take joined.taken) := text_joinLines ..
    have left : joined.rest = rest.drop joined.taken := rest_joinLines ..
    rw [left] at ih
    have taken : ∀ line ∈ rest.take joined.taken, EndsOutside (cleanLine line) :=
      fun line member => others line (List.mem_of_mem_take member)
    have further : ∀ line ∈ rest.drop joined.taken, EndsOutside (cleanLine line) :=
      fun line member => others line (List.mem_of_mem_drop member)
    rw [List.map_cons, List.sum_cons, left, ih further, text, constructorCount_continued taken own,
      Nat.add_assoc, ← List.sum_append, ← List.map_append, List.take_append_drop]
    rfl

omit outside in
theorem constructorCount_codeLinesFrom (name : List Char) (number : Nat) :
    ((codeLinesFrom number lines).map fun code => constructorCount name (mask code.text)).sum =
      (lines.map fun line => constructorCount name (mask (cleanLine line))).sum := by
  induction lines generalizing number with
  | nil => rfl
  | cons line rest ih =>
    rw [codeLinesFrom, List.map_cons, List.sum_cons, ← ih (number + 1)]
    by_cases empty : cleanLine line = []
    · have none_ : constructorCount name (mask (cleanLine line)) = 0 := by
        rw [empty]
        rfl
      rw [none_, Nat.zero_add]
      simp [empty]
    · simp [empty]

end Source

theorem LineMemory.countP_objects (kind : Kind) (code : CodeLine) :
    ((LineMemory.ofCode code).objects.countP fun name => String.ofList name == kind.name) =
      constructorCount kind.name.toList (mask code.text) := by
  have notCall : kind.name.toList ≠ "new".toList := by cases kind <;> decide
  have named : (fun name : List Char => String.ofList name == kind.name) =
      (· == kind.name.toList) := by
    funext name
    rw [Bool.eq_iff_iff, beq_iff_eq, beq_iff_eq]
    exact ⟨fun same => same ▸ String.toList_ofList.symm, fun same => by
      rw [same, String.ofList_toList]⟩
  rw [constructorCount, ← (meetsOnce_objects notCall).stops, List.length_map,
    ← List.countP_eq_length_filter, named]
  exact List.countP_map

theorem MemoryEstimate.countP_objects {config : Config} {source sourceId : String}
    {estimate : MemoryEstimate} (estimated : ofSource config source sourceId = .ok estimate)
    (kind : Kind) : (estimate.objects.countP fun object => object.2 == kind.name) =
      ((Text.lines source.toList).map fun line =>
        constructorCount kind.name.toList (mask (cleanLine line))).sum := by
  obtain ⟨_, _, objects⟩ := shown_ofLines estimated
  rw [objects, List.countP_flatMap, linesOf, List.map_map, ← constructorCount_codeLinesFrom _ 1]
  refine congrArg List.sum (List.map_congr_left fun code _ => ?_)
  rw [← LineMemory.countP_objects]
  exact List.countP_map

section LeftOpen

variable {opening stop : Nat} {masked : List Char}

/-- No bracket behind the one at an index closes it. -/
def LeftOpen (code : List Char) (opening : Nat) : Prop :=
  ∃ start, (scan code)[opening]? = some start ∧ ∀ index mark, opening < index →
    (scan code)[index]? = some mark → mark.closesTo (start.depth - 1) = false

theorem leftOpen_iff (inside : opening < code.length) :
    LeftOpen code opening ↔ findClosing? code opening = none := by
  have marked : opening < (scan code).length := (length_scan code).symm ▸ inside
  have found : (scan code)[opening]? = some (scan code)[opening] := List.getElem?_eq_getElem marked
  rw [findClosing?_eq_bind, LeftOpen, found]
  simp only [Option.some.injEq, exists_eq_left', Option.map_some, Option.bind_some,
    Option.map_eq_none_iff, findIdx?_drop_eq_none_iff, Nat.succ_le_iff]
  refine forall_congr' fun index => ?_
  cases (scan code)[index]? <;> simp

theorem argumentText?_eq_none_iff :
    Usage.argumentText? code masked stop = none ↔
      ∃ blanks behind : List Char, masked.drop stop = blanks ++ '(' :: behind ∧
        (∀ c ∈ blanks, Text.isBlank c = true) ∧
        findClosing? code (stop + blanks.length) = none := by
  rw [Usage.argumentText?_eq]
  constructor
  · intro none_
    cases begun : Usage.parenthesisBehind? masked stop with
    | none =>
      rw [begun] at none_
      cases none_
    | some opening =>
      obtain ⟨blanks, behind, whole, blank, rfl⟩ := Usage.parenthesisBehind?_eq_some_iff.mp begun
      rw [begun, Option.elim_some, Option.map_eq_none_iff] at none_
      exact ⟨blanks, behind, whole, blank, none_⟩
  · rintro ⟨blanks, behind, whole, blank, none_⟩
    rw [Usage.parenthesisBehind?_eq_some_iff.mpr ⟨blanks, behind, whole, blank, rfl⟩,
      Option.elim_some, none_, Option.map_none]

/-- In the code, the parenthesis behind a constructor of the class is left open. -/
def LeavesOpen (name code : List Char) : Prop :=
  ∃ front blanks behind : List Char,
    mask code = front ++ (name ++ ".new".toList) ++ (blanks ++ '(' :: behind) ∧
      front.getLast?.any Text.isWord = false ∧ (∀ c ∈ blanks, Text.isBlank c = true) ∧
      LeftOpen code (front ++ (name ++ ".new".toList) ++ blanks).length

theorem mem_constructorEnds : stop ∈ constructorEnds kind code ↔
    ∃ front rest : List Char, mask code = front ++ (kind.name.toList ++ ".new".toList) ++ rest ∧
      front.getLast?.any Text.isWord = false ∧ rest.head?.any Text.isWord = false ∧
      stop = (front ++ (kind.name.toList ++ ".new".toList)).length := by
  have places (front : List Char) : (front ++ (kind.name.toList ++ ".new".toList)).length =
      0 + front.length + (kind.name.toList.length + 4) := by
    rw [List.length_append, List.length_append, Nat.zero_add]
    rfl
  rw [constructorEnds, mem_endsFrom]
  constructor
  · rintro ⟨front, own, whole, begins, rfl⟩
    obtain ⟨edge, _, _, rest, ends, rfl⟩ := constructs_iff.mp begins
    rw [Option.or_none] at edge
    exact ⟨front, rest, by simpa using whole, edge, ends, (places front).symm⟩
  · rintro ⟨front, rest, whole, edge, ends, rfl⟩
    have shown : kind.name.toList ≠ [] := by cases kind <;> decide
    have begins : constructs kind.name.toList (front.getLast?.or none)
        (kind.name.toList ++ (".new".toList ++ rest)) = true :=
      constructs_iff.mpr
        ⟨by rwa [Option.or_none], shown, Usage.isWord_of_mem_name kind, rest, ends, rfl⟩
    exact ⟨front, _, by simpa using whole, begins, places front⟩

theorem leavesOpen_iff (kind : Kind) (code : List Char) :
    LeavesOpen kind.name.toList code ↔
      ∃ stop ∈ constructorEnds kind code,
        Usage.argumentText? code (mask code) stop = none := by
  have inside {made blanks behind : List Char}
      (whole : mask code = made ++ (blanks ++ '(' :: behind)) :
      (made ++ blanks).length < code.length := by
    have length := congrArg List.length whole
    rw [mask, List.length_map, length_scan] at length
    rw [length]
    simp
  constructor
  · rintro ⟨front, blanks, behind, whole, edge, blank, unclosed⟩
    have ends : (blanks ++ '(' :: behind).head?.any Text.isWord = false := by
      cases blanks with
      | nil => rfl
      | cons c others =>
        simpa using Text.isWord_of_isBlank (blank c (List.mem_cons_self ..))
    refine ⟨_, mem_constructorEnds.mpr ⟨front, _, whole, edge, ends, rfl⟩, ?_⟩
    rw [leftOpen_iff (inside whole), List.length_append] at unclosed
    rw [argumentText?_eq_none_iff, whole, List.drop_left]
    exact ⟨blanks, behind, rfl, blank, unclosed⟩
  · rintro ⟨stop, member, none_⟩
    obtain ⟨front, rest, whole, edge, _, rfl⟩ := mem_constructorEnds.mp member
    obtain ⟨blanks, behind, split, blank, unclosed⟩ := argumentText?_eq_none_iff.mp none_
    rw [whole, List.drop_left] at split
    subst split
    rw [← List.length_append, ← leftOpen_iff (inside whole)] at unclosed
    exact ⟨front, blanks, behind, whole, edge, blank, unclosed⟩

end LeftOpen

namespace Extraction

variable {extraction : Extraction} {statement : Statement} {masked : List Char}
variable {bound : List String} {found : List (Found (Option (List Char) × Kind))}

/-- The parenthesis behind a constructor that ends at an index is closed in the statement. -/
def closes (statement : Statement) (stop : Nat) : Bool :=
  (Usage.argumentText? statement.text (mask statement.text) stop).isSome

theorem instanceCount_addEvent (extraction : Extraction) (event : Event) :
    (extraction.addEvent event).instanceCount kind =
      extraction.instanceCount kind + if event.kind == kind then 1 else 0 := by
  rw [instanceCount, addEvent, List.countP_append, List.countP_singleton]
  rfl

theorem instanceCount_addConstructions
    (quiet : (extraction.addConstructions statement (mask statement.text) bound found).1.fault =
      none) :
    (extraction.addConstructions statement (mask statement.text) bound
        found).1.extraction.instanceCount kind =
      extraction.instanceCount kind +
        found.countP fun found => closes statement found.stop && found.value.2 == kind := by
  induction found generalizing extraction bound with
  | nil => rfl
  | cons first rest ih =>
    cases closed : Usage.argumentText? statement.text (mask statement.text) first.stop with
    | none =>
      rw [addConstructions_unclosed closed] at quiet ⊢
      rw [ih quiet, List.countP_cons]
      simp [closes, closed]
    | some text =>
      cases read : Arguments.read extraction.bindings text with
      | error fault =>
        rw [addConstructions_fault closed read] at quiet
        cases quiet
      | ok arguments =>
        rw [addConstructions_read closed read] at quiet ⊢
        have own : (closes statement first.stop && first.value.2 == kind) =
            (first.value.2 == kind) := by
          rw [closes, closed, Option.isSome_some, Bool.true_and]
        rw [ih quiet, instanceCount_addEvent, List.countP_cons, own, Nat.add_right_comm,
          Nat.add_assoc]
        rfl

/-- A statement adds an event for each of its constructors whose parenthesis is closed. -/
theorem instanceCount_addStatement (quiet : (extraction.addStatement statement).fault = none) :
    (extraction.addStatement statement).extraction.instanceCount kind =
      extraction.instanceCount kind +
        (constructorEnds kind statement.text).countP (closes statement) := by
  rw [fault_addStatement] at quiet
  rw [instanceCount, events_addStatement, constructorEnds,
    ← (Usage.meetsOnce_constructions kind).stops, List.countP_map, List.countP_filter]
  exact instanceCount_addConstructions quiet

theorem instanceCount_addStatements {statements : List Statement}
    (quiet : (extraction.addStatements statements).fault = none) :
    (extraction.addStatements statements).extraction.instanceCount kind =
      extraction.instanceCount kind + (statements.map fun statement =>
        (constructorEnds kind statement.text).countP (closes statement)).sum := by
  induction statements generalizing extraction with
  | nil => rfl
  | cons statement rest ih =>
    cases met : (extraction.addStatement statement).fault with
    | some fault =>
      rw [addStatements_fault met, met] at quiet
      cases quiet
    | none =>
      rw [addStatements_quiet met] at quiet ⊢
      rw [ih quiet, instanceCount_addStatement met, List.map_cons, List.sum_cons, Nat.add_assoc]

end Extraction

/-- The events of a source are its constructors with closed parentheses. -/
theorem instanceCount_of_extract {source sourceId : String} {extraction : Extraction}
    (extracted : extract source sourceId = .ok extraction) (kind : Kind) :
    extraction.instanceCount kind = ((statements source.toList).map fun statement =>
      (constructorEnds kind statement.text).countP
        (Extraction.closes statement)).sum := by
  obtain ⟨quiet, rfl⟩ := extract_eq_ok.mp extracted
  refine (Extraction.instanceCount_addStatements quiet).trans ?_
  exact Nat.zero_add _

/-- Beyond the events of a kind, the estimate counts the constructors whose parentheses are left
open. -/
theorem countP_objects_eq {source sourceId estimateId : String} {extraction : Extraction}
    {config : Config} {estimate : MemoryEstimate}
    (extracted : extract source sourceId = .ok extraction)
    (outside : ∀ line ∈ Text.lines source.toList, EndsOutside (cleanLine line))
    (estimated : MemoryEstimate.ofSource config source estimateId = .ok estimate) (kind : Kind) :
    (estimate.objects.countP fun object => object.2 == kind.name) =
      extraction.instanceCount kind + ((statements source.toList).map fun statement =>
        (constructorEnds kind statement.text).countP fun stop =>
          !Extraction.closes statement stop).sum := by
  rw [MemoryEstimate.countP_objects estimated, instanceCount_of_extract extracted, statements,
    ← constructorCount_statementsFrom outside _ 1, ← List.sum_map_add]
  refine congrArg List.sum (List.map_congr_left fun statement _ => ?_)
  change (constructorEnds kind statement.text).length = _
  rw [List.length_eq_countP_add_countP (Extraction.closes statement)]
  simp

/-- The events and the constructed objects of a source count the same constructions. Where every
line closes its quotes, there are at most as many events of a kind as objects of its class, and as
many exactly if no statement leaves the parenthesis behind a constructor of the kind open. -/
theorem constructions_counted_alike {source sourceId estimateId : String} {extraction : Extraction}
    {config : Config} {estimate : MemoryEstimate}
    (extracted : extract source sourceId = .ok extraction)
    (outside : ∀ line ∈ Text.lines source.toList, EndsOutside (cleanLine line))
    (estimated : MemoryEstimate.ofSource config source estimateId = .ok estimate) (kind : Kind) :
    let events := extraction.events.countP fun event => event.kind == kind
    let objects := estimate.objects.countP fun object => object.2 == kind.name
    events ≤ objects ∧ (events = objects ↔
      ∀ statement ∈ statements source.toList, ¬LeavesOpen kind.name.toList statement.text) := by
  intro events objects
  have counted : objects = events + _ := countP_objects_eq extracted outside estimated kind
  refine ⟨counted ▸ Nat.le_add_right .., ?_⟩
  rw [counted, Nat.left_eq_add, List.sum_eq_zero_iff_forall_eq_nat, List.forall_mem_map]
  refine forall₂_congr fun statement _ => ?_
  rw [leavesOpen_iff, List.countP_eq_zero]
  simp [Extraction.closes]

theorem constructions_counted_alike_of_open_call :
    let source := "led = GPIO.new(\"B7\"); pair = [GPIO.new(\n  1), ADC.new] # both\n" ++
      "ADC.new (GPIO.new(2)\n"
    let config : Config := { Config.standard with memory := fun _ => .nat 1 }
    ∃ extraction estimate, extract source "a.rb" = .ok extraction ∧
      MemoryEstimate.ofSource config source "a.rb" = .ok estimate ∧
      (∀ line ∈ Text.lines source.toList, EndsOutside (cleanLine line)) ∧
      (extraction.events.countP fun event => event.kind == .gpio) = 3 ∧
      (extraction.events.countP fun event => event.kind == .adc) = 1 ∧
      (estimate.objects.countP fun object => object.2 == "GPIO") = 3 ∧
      (estimate.objects.countP fun object => object.2 == "ADC") = 2 ∧
      (∀ statement ∈ statements source.toList, ¬LeavesOpen "GPIO".toList statement.text) ∧
      ∃ statement ∈ statements source.toList, LeavesOpen "ADC".toList statement.text := by
  intro source config
  have outside : ∀ line ∈ Text.lines source.toList, EndsOutside (cleanLine line) := by
    decide +kernel
  have scanned : (extract source "a.rb").toOption.any (fun extraction =>
      (extraction.events.countP fun event => event.kind == .gpio) == 3 &&
        (extraction.events.countP fun event => event.kind == .adc) == 1) = true := by
    decide +kernel
  have shown : (MemoryEstimate.ofSource config source "a.rb").toOption.any (fun estimate =>
      (estimate.objects.countP fun object => object.2 == "GPIO") == 3 &&
        (estimate.objects.countP fun object => object.2 == "ADC") == 2) = true := by
    decide +kernel
  obtain ⟨extraction, extracted, events⟩ := exists_ok_of_any scanned
  obtain ⟨estimate, estimated, objects⟩ := exists_ok_of_any shown
  simp only [Bool.and_eq_true, beq_iff_eq] at events objects
  have closed := (constructions_counted_alike extracted outside estimated .gpio).2
  have open_ := (constructions_counted_alike extracted outside estimated .adc).2
  rw [events.1, Kind.name, objects.1] at closed
  rw [events.2, Kind.name, objects.2] at open_
  refine ⟨extraction, estimate, extracted, estimated, outside, events.1, events.2, objects.1,
    objects.2, closed.mp rfl, ?_⟩
  by_contra none_
  have same := open_.mpr fun statement member leaves => none_ ⟨statement, member, leaves⟩
  cases same

end PinBudget
