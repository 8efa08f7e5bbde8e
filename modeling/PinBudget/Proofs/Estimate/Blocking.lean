import PinBudget.Proofs.Estimate.LineCalls
import PinBudget.Proofs.Outcome

/-!
Blocking calls in the timing of a source. The scan attributes a call to the first line of its
statement, and the timing charges physical lines: none of the attributed calls is lost, but a
further line of a statement that looks like a blocking call is charged beside them.
-/
namespace PinBudget

open Source

namespace TimingEstimate

open LineTiming

variable {config : Config} {text sourceId : String} {calls : List MethodCall}
variable {responseLimit : Option Number} {estimate : TimingEstimate} {shown : List LineTiming}

theorem addCharges_append (time : Float) (front back : List (Except Fault Number)) :
    addCharges time (front ++ back) =
      (addCharges time front >>= fun reached => addCharges reached back) :=
  List.foldlM_append

theorem addCharges_of_foldlM {start reached : Float × List TimerUse}
    (done : shown.foldlM (addLine config) start = .ok reached) :
    addCharges start.1 (shown.flatMap (charges config.timing)) = .ok reached.1 := by
  induction shown generalizing start with
  | nil =>
    cases done
    rfl
  | cons line rest ih =>
    rw [List.foldlM_cons] at done
    obtain ⟨next, step, done⟩ := bind_eq_ok.mp done
    obtain ⟨timers, _, step⟩ := bind_eq_ok.mp step
    obtain ⟨time, charged, step⟩ := bind_eq_ok.mp step
    cases step
    rw [List.flatMap_cons, addCharges_append, charged]
    exact ih done

/-- An estimate has the operations of its lines, and its time is what they are charged. -/
theorem blocking_ofLines (estimated : ofLines config sourceId responseLimit shown = .ok estimate) :
    (estimate.blocking = shown.flatMap fun line =>
        line.operations.map (BlockingOperation.mk line.line)) ∧
      addCharges 0.0 (shown.flatMap (charges config.timing)) = .ok estimate.executionMs := by
  obtain ⟨⟨execution, timers⟩, charged, estimated⟩ := bind_eq_ok.mp estimated
  obtain ⟨delayNotes, _, estimated⟩ := bind_eq_ok.mp estimated
  obtain ⟨executionNotes, _, estimated⟩ := bind_eq_ok.mp estimated
  cases estimated
  exact ⟨rfl, addCharges_of_foldlM charged⟩

/-- What a line adds to the running time: its delays, the cost of a blocking call for each of the
operations on it, and the overhead of a loop. -/
def lineCharges (config : Config) (blocking : List BlockingOperation) (line : List Char × Nat) :
    List (Except Fault Number) :=
  let masked := mask (cleanLine line.1)
  (matchesOf delay masked).map (fun delay => .ok (.float delay.2)) ++
    List.replicate (blocking.countP fun operation => operation.line == line.2)
      (Config.number (config.timing .blockingCall)) ++
    (if occurs loopWord masked then [Config.number (config.timing .loopOverhead)] else [])

theorem matchesOf_mask_nil {α : Type} (pattern : Pattern α) : matchesOf pattern (mask []) = [] := by
  rw [matchesOf, occurrences, mask, scan, ScanState.marks, List.map_nil, occurrencesFrom]
  rfl

theorem occurs_mask_nil {α : Type} (pattern : Pattern α) : occurs pattern (mask []) = false := by
  rw [occurs, occurrences, mask, scan, ScanState.marks, List.map_nil, occurrencesFrom]
  rfl

section Recorded

variable (recorded : Recorded (Text.lines text.toList) calls)
variable (estimated : ofSource config text sourceId calls responseLimit = .ok estimate)

/-- The blocking calls on each line, by the names of a configuration. -/
def callsAt (config : Config) (calls : List MethodCall) : Nat → List String :=
  attributed (config.timing .blockingMethods).items calls

include recorded estimated

theorem blocking_ofSource : estimate.blocking =
    ((Text.lines text.toList).zipIdx 1).flatMap (operationsAt (callsAt config calls)) := by
  rw [(blocking_ofLines estimated).1, List.flatMap_map, codeLines, flatMap_codeLinesFrom]
  · rfl
  · intro index line found blank
    have none : callsAt config calls (1 + index) = [] :=
      Nat.add_comm index 1 ▸ recorded.attributed_of_blank found blank
    dsimp only [LineTiming.ofCode]
    rw [← callsAt, operationsOf_of_none none]
    rfl

theorem filter_blocking {index : Nat} {line : List Char}
    (found : (Text.lines text.toList)[index]? = some line) :
    (estimate.blocking.filter fun operation => operation.line == index + 1) =
      operationsAt (callsAt config calls) (line, index + 1) := by
  rw [blocking_ofSource recorded estimated, Nat.add_comm index 1, filter_operationsAt, found]
  simp

theorem exists_line_of_blocking {operation : BlockingOperation}
    (member : operation ∈ estimate.blocking) :
    ∃ index line, (Text.lines text.toList)[index]? = some line ∧ operation.line = index + 1 := by
  rw [blocking_ofSource recorded estimated] at member
  obtain ⟨line, numbered, own⟩ := List.mem_flatMap.mp member
  obtain ⟨bound, found⟩ := List.mk_mem_zipIdx_iff_le_and_getElem?_sub.mp numbered
  refine ⟨line.2 - 1, line.1, found, ?_⟩
  rw [line_of_mem_operationsAt own]
  omega

theorem pairwise_blocking :
    estimate.blocking.Pairwise fun operation later => operation.line ≤ later.line := by
  rw [blocking_ofSource recorded estimated, List.pairwise_flatMap]
  constructor
  · intro line _
    refine List.pairwise_of_forall_mem_list ?_
    intro operation member later found
    exact Nat.le_of_eq
      ((line_of_mem_operationsAt member).trans (line_of_mem_operationsAt found).symm)
  · refine (pairwise_zipIdx (Text.lines text.toList) 1).imp ?_
    intro line next before operation member later found
    rw [line_of_mem_operationsAt member, line_of_mem_operationsAt found]
    exact Nat.le_of_lt before

/-- The operations on lines with attributed calls are the blocking calls, in their order. -/
theorem blocking_of_calls :
    ((estimate.blocking.filter fun operation =>
      !(callsAt config calls operation.line).isEmpty).map fun operation =>
        ((operation.line : Int), operation.operation)) =
      (calls.filter (blocks (config.timing .blockingMethods).items)).map fun call =>
        (call.line, call.operation) := by
  rw [blocking_ofSource recorded estimated, List.filter_flatMap, List.map_flatMap,
    ← recorded.flatMap_callsOn]
  apply List.flatMap_congr
  intro line _
  exact operationsAt_of_carried _ calls line

theorem length_blocking : estimate.blocking.length =
    (calls.filter (blocks (config.timing .blockingMethods).items)).length +
      ((Text.lines text.toList).zipIdx 1).countP (fallsBack (callsAt config calls)) := by
  have charged := recorded.flatMap_callsOn (config.timing .blockingMethods).items
    MethodCall.operation
  simp only [← attributed_eq] at charged
  rw [blocking_ofSource recorded estimated, length_flatMap_operationsAt, callsAt, charged,
    List.length_map]

theorem executionMs_ofSource : addCharges 0.0
    (((Text.lines text.toList).zipIdx 1).flatMap (lineCharges config estimate.blocking)) =
      .ok estimate.executionMs := by
  have charged := (blocking_ofLines estimated).2
  rw [List.flatMap_map, codeLines, flatMap_codeLinesFrom] at charged
  · rw [← charged]
    congr 1
    apply List.flatMap_congr
    intro line numbered
    obtain ⟨bound, found⟩ := List.mk_mem_zipIdx_iff_le_and_getElem?_sub.mp numbered
    have own := filter_blocking recorded estimated found
    rw [Nat.sub_add_cancel bound] at own
    rw [lineCharges, List.countP_eq_length_filter, own, operationsAt, List.length_map, charges,
      List.map_const']
    rfl
  · intro index line found blank
    have none : callsAt config calls (1 + index) = [] :=
      Nat.add_comm index 1 ▸ recorded.attributed_of_blank found blank
    rw [charges, LineTiming.ofCode, ← callsAt]
    dsimp only
    rw [operationsOf_of_none none, matchesOf_mask_nil, occurs_mask_nil]
    rfl

end Recorded

section Standard

private theorem exists_addLine {line : LineTiming} (still : line.delays = [])
    (untimed : line.timers = []) (reached : Float × List TimerUse) :
    ∃ next, addLine Config.standard reached line = .ok next := by
  have floating : ∀ charge ∈ line.charges Config.standard.timing,
      ∃ amount, charge = .ok (.float amount) := by
    intro charge member
    rw [charges, still, List.map_nil, List.nil_append] at member
    rcases List.mem_append.mp member with operation | loop
    · obtain ⟨_, _, rfl⟩ := List.mem_map.mp operation
      exact ⟨10.0, rfl⟩
    · split at loop
      · exact ⟨5.0, List.mem_singleton.mp loop⟩
      · cases loop
  obtain ⟨time, charged⟩ : ∃ time,
      addCharges reached.1 (line.charges Config.standard.timing) = .ok time := by
    refine exists_ok_of_foldlM ?_ reached.1
    intro charge member before
    obtain ⟨amount, rfl⟩ := floating charge member
    exact ⟨_, rfl⟩
  refine ⟨(time, reached.2 ++ []), ?_⟩
  rw [addLine, timersOf, untimed, charged]
  rfl

private theorem exists_ofLines (each : ∀ line ∈ shown, line.delays = [] ∧ line.timers = [])
    (sourceId : String) :
    ∃ estimate, ofLines Config.standard sourceId none shown = .ok estimate := by
  obtain ⟨⟨execution, timers⟩, charged⟩ := exists_ok_of_foldlM
    (fun line member before => exists_addLine (each line member).1 (each line member).2 before)
    ((0.0, []) : Float × List TimerUse)
  have delays (view : LineTiming → String × Float → DelayCall) :
      (shown.flatMap fun line => line.delays.map (view line)) = [] := by
    apply List.flatMap_eq_nil_iff.mpr
    intro line member
    rw [(each line member).1]
    rfl
  have noted : ∃ notes, executionFindings Config.standard sourceId execution = .ok notes := by
    rw [executionFindings]
    cases outcome : Config.above (.float execution) (Config.standard.timing .executionLimit) with
    | error fault => cases outcome
    | ok above => cases above <;> exact ⟨_, rfl⟩
  obtain ⟨notes, noted⟩ := noted
  rw [ofLines]
  simp only [delays]
  exact ⟨_, bind_eq_ok.mpr ⟨_, charged, bind_eq_ok.mpr ⟨[], rfl,
    bind_eq_ok.mpr ⟨notes, noted, rfl⟩⟩⟩⟩

/-- With the standard settings, a source that is scanned without a fault and has no delays and
timers has an estimate. -/
theorem exists_estimate
    (scanned : (scanSource text sourceId).fault = none ∧
      (scanSource text sourceId).extraction.methodCalls = calls)
    (plain : ∀ code ∈ codeLines text.toList,
      (matchesOf delay (mask code.text)).isEmpty = true ∧
        (matchesOf timer (mask code.text)).isEmpty = true) :
    ∃ extraction estimate, extract text sourceId = .ok extraction ∧
      extraction.methodCalls = calls ∧
      ofSource Config.standard text sourceId extraction.methodCalls none = .ok estimate := by
  have each : ∀ line ∈ (codeLines text.toList).map
      (LineTiming.ofCode (attributed (Config.standard.timing .blockingMethods).items
        (scanSource text sourceId).extraction.methodCalls)),
      line.delays = [] ∧ line.timers = [] := by
    intro line member
    obtain ⟨code, own, rfl⟩ := List.mem_map.mp member
    obtain ⟨still, untimed⟩ := plain code own
    exact ⟨List.isEmpty_iff.mp still, List.isEmpty_iff.mp untimed⟩
  obtain ⟨estimate, estimated⟩ := exists_ofLines each sourceId
  exact ⟨_, estimate, extract_eq_ok.mpr ⟨scanned.1, rfl⟩, scanned.2, estimated⟩

end Standard

/-- No blocking call that a scan attributes is lost. The operations on lines that carry attributed
blocking calls are exactly these calls, one each and in their order; any other line has at most one
operation, what its code looks like once quoted texts are blanked out; every operation is on a line
of the text, and the lines of the operations never decrease. -/
theorem attributed_calls_kept {name : String} {extraction : Extraction}
    (extracted : extract text name = .ok extraction)
    (estimated :
      ofSource config text sourceId extraction.methodCalls responseLimit = .ok estimate) :
    let lines := Text.lines text.toList
    let calls := callsAt config extraction.methodCalls
    ((estimate.blocking.filter fun operation => !(calls operation.line).isEmpty).map fun operation =>
        ((operation.line : Int), operation.operation)) =
      ((extraction.methodCalls.filter (blocks (config.timing .blockingMethods).items)).map
        fun call => (call.line, s!"{call.receiver}.{call.method}")) ∧
      (∀ index line, lines[index]? = some line → calls (index + 1) = [] →
        (estimate.blocking.filter fun operation => operation.line == index + 1) =
          (blockingText? (mask (cleanLine line))).toList.map fun shown =>
            ⟨index + 1, String.ofList shown⟩) ∧
      (∀ operation ∈ estimate.blocking,
        ∃ index line, lines[index]? = some line ∧ operation.line = index + 1) ∧
      estimate.blocking.Pairwise fun operation later => operation.line ≤ later.line := by
  intro lines calls
  have recorded := recorded_of_extract extracted
  refine ⟨blocking_of_calls recorded estimated, ?_, ?_, pairwise_blocking recorded estimated⟩
  · intro index line found none
    rw [filter_blocking recorded estimated found, operationsAt, operationsOf_of_none none,
      List.map_map]
    rfl
  · intro operation member
    exact exists_line_of_blocking recorded estimated member

theorem attributed_calls_kept_of_joined_lines :
    let text := "port = UART.new()\nshow(port.read,\n  port.gets?)\nadc.read # once\n"
    ∃ extraction estimate, extract text "main" = .ok extraction ∧
      ofSource Config.standard text "main" extraction.methodCalls none = .ok estimate ∧
      estimate.blocking = [⟨2, "port.read"⟩, ⟨2, "port.gets?"⟩, ⟨4, "adc.read"⟩] ∧
      ((estimate.blocking.filter fun operation =>
        !(callsAt Config.standard extraction.methodCalls operation.line).isEmpty).map
          fun operation => ((operation.line : Int), operation.operation)) =
        ((extraction.methodCalls.filter
          (blocks (Config.standard.timing .blockingMethods).items)).map
            fun call => (call.line, s!"{call.receiver}.{call.method}")) ∧
      estimate.blocking.Pairwise fun operation later => operation.line ≤ later.line := by
  intro text
  have scanned : (scanSource text "main").fault = none ∧
      (scanSource text "main").extraction.methodCalls =
        [⟨.uart, "port", "read", "main", 2⟩, ⟨.uart, "port", "gets?", "main", 2⟩] := by
    decide +kernel
  obtain ⟨extraction, estimate, extracted, made, estimated⟩ :=
    exists_estimate scanned (by decide +kernel)
  obtain ⟨kept, _, _, ordered⟩ := attributed_calls_kept extracted estimated
  refine ⟨extraction, estimate, extracted, estimated, ?_, kept, ordered⟩
  rw [blocking_ofSource (recorded_of_extract extracted) estimated, made]
  decide +kernel

/-- No further line of a statement that carries blocking calls looks like one itself. -/
def Unechoed (lines : List (List Char)) (calls : Nat → List String) : Prop :=
  ∀ block ∈ blocksOf lines, calls block.first ≠ [] → ∀ index line, lines[index]? = some line →
    block.Covers (index + 1) → block.first < index + 1 → looksBlocking line = false

/-- A line falls back only if its statement carries no blocking calls: this holds of all lines
exactly if no further line of a statement with such calls looks like one. -/
theorem unechoed_iff {lines : List (List Char)} (recorded : Recorded lines calls) :
    Unechoed lines (callsAt config calls) ↔
      ∀ block ∈ blocksOf lines, ∀ index line, lines[index]? = some line →
        block.Covers (index + 1) → fallsBack (callsAt config calls) (line, index + 1) = true →
          callsAt config calls block.first = [] := by
  constructor
  · intro unechoed block member index line found covers falls
    obtain ⟨none, looks⟩ := Bool.and_eq_true_iff.mp falls
    by_cases carries : callsAt config calls block.first = []
    · exact carries
    · rcases Nat.lt_or_eq_of_le covers.1 with further | first
      · rw [unechoed block member carries index line found covers further] at looks
        cases looks
      · rw [first]
        exact List.isEmpty_iff.mp none
  · intro only block member carries index line found covers further
    apply Bool.eq_false_iff.mpr
    intro looks
    have none : callsAt config calls (index + 1) = [] :=
      recorded.attributed_of_further member covers further
    have falls : fallsBack (callsAt config calls) (line, index + 1) = true := by
      simp [fallsBack, none, looks]
    exact carries (only block member index line found covers falls)

/-- A line that carries attributed blocking calls is charged for these, and any other line for what
it looks like. So no line falls back beside the calls of its statement exactly if no further line of
a statement with such calls looks like one; then a text whose lines that look like blocking calls
all belong to statements with such calls has as many operations as attributed calls. In general the
lines that fall back come on top. The running time is what the lines add, with the cost of a
blocking call once for every operation. -/
theorem fallback_beside_calls {name : String} {extraction : Extraction}
    (extracted : extract text name = .ok extraction)
    (estimated :
      ofSource config text sourceId extraction.methodCalls responseLimit = .ok estimate) :
    let lines := Text.lines text.toList
    let calls := callsAt config extraction.methodCalls
    let blocking := extraction.methodCalls.filter (blocks (config.timing .blockingMethods).items)
    (∀ index line, lines[index]? = some line →
      (estimate.blocking.filter fun operation => operation.line == index + 1).map
          BlockingOperation.operation =
        if fallsBack calls (line, index + 1) then
          (blockingText? (mask (cleanLine line))).toList.map String.ofList
        else calls (index + 1)) ∧
      (Unechoed lines calls ↔ ∀ block ∈ blocksOf lines, ∀ index line, lines[index]? = some line →
        block.Covers (index + 1) → fallsBack calls (line, index + 1) = true →
          calls block.first = []) ∧
      (Unechoed lines calls →
        (∀ index line, lines[index]? = some line → looksBlocking line = true →
          ∃ block ∈ blocksOf lines, block.Covers (index + 1) ∧ calls block.first ≠ []) →
        estimate.blocking.length = blocking.length) ∧
      estimate.blocking.length = blocking.length + (lines.zipIdx 1).countP (fallsBack calls) ∧
      addCharges 0.0 ((lines.zipIdx 1).flatMap (lineCharges config estimate.blocking)) =
        .ok estimate.executionMs := by
  intro lines calls blocking
  have recorded := recorded_of_extract extracted
  have counted := length_blocking recorded estimated
  refine ⟨?_, unechoed_iff recorded, ?_, counted, executionMs_ofSource recorded estimated⟩
  · intro index line found
    rw [filter_blocking recorded estimated found]
    exact map_operationsAt calls (line, index + 1)
  · intro unechoed belongs
    have none : (lines.zipIdx 1).countP (fallsBack calls) = 0 := by
      apply List.countP_eq_zero.mpr
      intro line numbered falls
      obtain ⟨bound, found⟩ := List.mk_mem_zipIdx_iff_le_and_getElem?_sub.mp numbered
      have number : line.2 - 1 + 1 = line.2 := Nat.sub_add_cancel bound
      obtain ⟨block, member, covers, carries⟩ :=
        belongs (line.2 - 1) line.1 found (Bool.and_eq_true_iff.mp falls).2
      exact carries ((unechoed_iff recorded).mp unechoed block member (line.2 - 1) line.1 found
        covers (by rwa [number]))
    rw [counted, none, Nat.add_zero]

theorem fallback_beside_calls_of_plain_further_line :
    let text := "uart = UART.new()\nshow(uart.read,\n  uart.name)\n"
    ∃ extraction estimate, extract text "main" = .ok extraction ∧
      ofSource Config.standard text "main" extraction.methodCalls none = .ok estimate ∧
      Unechoed (Text.lines text.toList) (callsAt Config.standard extraction.methodCalls) ∧
      estimate.blocking.length = 1 ∧
      addCharges 0.0 (((Text.lines text.toList).zipIdx 1).flatMap
        (lineCharges Config.standard estimate.blocking)) = .ok estimate.executionMs := by
  intro text
  have scanned : (scanSource text "main").fault = none ∧
      (scanSource text "main").extraction.methodCalls = [⟨.uart, "uart", "read", "main", 2⟩,
        ⟨.uart, "uart", "name", "main", 2⟩] := by
    decide +kernel
  obtain ⟨extraction, estimate, extracted, made, estimated⟩ :=
    exists_estimate scanned (by decide +kernel)
  obtain ⟨_, _, counted, _, charged⟩ := fallback_beside_calls extracted estimated
  have blocks : blocksOf (Text.lines text.toList) = [⟨1, 0⟩, ⟨2, 1⟩] := by decide +kernel
  have second : ∀ line ∈ (Text.lines text.toList).zipIdx, looksBlocking line.1 = true →
      line.2 = 1 := by decide +kernel
  have only {index : Nat} {line : List Char} (found : (Text.lines text.toList)[index]? = some line)
      (looks : looksBlocking line = true) : index = 1 :=
    second (line, index) (List.mem_zipIdx_iff_getElem?.mpr found) looks
  have unechoed : Unechoed (Text.lines text.toList)
      (callsAt Config.standard extraction.methodCalls) := by
    intro block member _ index line found covers further
    apply Bool.eq_false_iff.mpr
    intro looks
    have here := only found looks
    rw [Block.Covers, Block.last] at covers
    rw [blocks] at member
    rcases List.mem_pair.mp member with rfl | rfl <;> dsimp only at covers further <;> omega
  have belongs (index : Nat) (line : List Char)
      (found : (Text.lines text.toList)[index]? = some line)
      (looks : looksBlocking line = true) :
      ∃ block ∈ blocksOf (Text.lines text.toList), block.Covers (index + 1) ∧
        callsAt Config.standard extraction.methodCalls block.first ≠ [] := by
    obtain rfl := only found looks
    rw [blocks, made]
    exact ⟨⟨2, 1⟩, by decide, by decide, by decide +kernel⟩
  refine ⟨extraction, estimate, extracted, estimated, unechoed, ?_, charged⟩
  rw [counted unechoed belongs, made]
  decide +kernel

/-- One call on a further line of its statement is charged on the first line, to which it is
attributed, and again on its own. -/
theorem call_on_further_line_charged_twice :
    let text := "uart = UART.new()\nshow(\n  uart.read)\n"
    let lines := Text.lines text.toList
    ∃ extraction estimate, extract text "main" = .ok extraction ∧
      ofSource Config.standard text "main" extraction.methodCalls none = .ok estimate ∧
      (∃ block ∈ blocksOf lines, ∃ line, lines[2]? = some line ∧ block.Covers 3 ∧
        fallsBack (callsAt Config.standard extraction.methodCalls) (line, 3) = true ∧
        callsAt Config.standard extraction.methodCalls block.first = ["uart.read"]) ∧
      (extraction.methodCalls.filter
        (blocks (Config.standard.timing .blockingMethods).items)).length = 1 ∧
      estimate.blocking = [⟨2, "uart.read"⟩, ⟨3, "uart.read"⟩] := by
  intro text lines
  have scanned : (scanSource text "main").fault = none ∧
      (scanSource text "main").extraction.methodCalls = [⟨.uart, "uart", "read", "main", 2⟩] := by
    decide +kernel
  obtain ⟨extraction, estimate, extracted, made, estimated⟩ :=
    exists_estimate scanned (by decide +kernel)
  refine ⟨extraction, estimate, extracted, estimated, ?_, ?_, ?_⟩
  · rw [made]
    refine ⟨⟨2, 1⟩, ?_, "  uart.read)".toList, ?_, ?_, ?_, ?_⟩ <;> decide +kernel
  · rw [made]
    decide +kernel
  · rw [blocking_ofSource (recorded_of_extract extracted) estimated, made]
    decide +kernel

end TimingEstimate

end PinBudget
