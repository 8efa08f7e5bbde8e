import PinBudget.Proofs.Dict
import PinBudget.Proofs.Source.Blocks
import PinBudget.Proofs.Usage.Scanning

/-!
Which variables hold a peripheral. A scan is read as the list of its statements, each with what had
been found before it and what has been found behind it. A variable holds what it was last bound to,
until a statement assigns it something else; method calls are recorded on the variables that hold a
peripheral once the constructions of their own statement are counted.
-/
namespace PinBudget

open Source

variable {name : String} {kind : Kind}

/-- The kind of the last of some events that binds a variable. -/
def Event.lastKind? (name : String) (events : List Event) : Option Kind :=
  (events.filter fun event => event.holder == some name).getLast?.map Event.kind

namespace Event

theorem lastKind?_append (name : String) (front back : List Event) :
    lastKind? name (front ++ back) = (lastKind? name back).or (lastKind? name front) := by
  rw [lastKind?, List.filter_append, List.getLast?_append, Option.map_or]
  rfl

theorem lastKind?_eq_none_iff {events : List Event} :
    lastKind? name events = none ↔ ∀ event ∈ events, event.holder ≠ some name := by
  simp [lastKind?]

theorem exists_of_lastKind? {events : List Event} (last : lastKind? name events = some kind) :
    ∃ event ∈ events, event.holder = some name ∧ event.kind = kind := by
  obtain ⟨event, found, own⟩ := Option.map_eq_some_iff.mp last
  obtain ⟨member, holds⟩ := List.mem_filter.mp (List.mem_of_getLast? found)
  exact ⟨event, member, by simpa using holds, own⟩

end Event

namespace Extraction

open Event

variable {start extraction reached : Extraction} {statement : Statement} {line : Nat}
variable {added : List Event}

/-- Events of a line have been added, and the variables that they bind hold their kinds. -/
structure Grows (line : Nat) (start reached : Extraction) (added : List Event) : Prop where
  sourceId : reached.sourceId = start.sourceId
  methodCalls : reached.methodCalls = start.methodCalls
  events : reached.events = start.events ++ added
  lines : ∀ event ∈ added, event.line = line
  holders : ∀ name, reached.holders.get? name = (lastKind? name added).or (start.holders.get? name)

theorem Grows.refl (line : Nat) (start : Extraction) : Grows line start start [] where
  sourceId := rfl
  methodCalls := rfl
  events := (List.append_nil _).symm
  lines := List.forall_mem_nil _
  holders _ := rfl

theorem get?_holders_addEvent (extraction : Extraction) (event : Event) (name : String) :
    (extraction.addEvent event).holders.get? name =
      (lastKind? name [event]).or (extraction.holders.get? name) := by
  unfold addEvent lastKind?
  cases bound : event.holder with
  | none => simp [bound]
  | some holder =>
    dsimp only
    rw [Dict.get?_set]
    by_cases same : holder = name
    · simp [bound, same]
    · simp [bound, same, Ne.symm same]

theorem Grows.behind {event : Event} (grown : Grows line (start.addEvent event) reached added)
    (own : event.line = line) : Grows line start reached (event :: added) where
  sourceId := grown.sourceId
  methodCalls := grown.methodCalls
  events := by rw [grown.events, addEvent, List.append_assoc, List.singleton_append]
  lines := List.forall_mem_cons.mpr ⟨own, grown.lines⟩
  holders name := by
    have split := lastKind?_append name [event] added
    rw [List.singleton_append] at split
    rw [grown.holders, get?_holders_addEvent, split, Option.or_assoc]

/-- The constructions of a statement add events of its line, and the variables bound here are those
that the events bind. -/
theorem grows_addConstructions (extraction : Extraction) (statement : Statement)
    (masked : List Char) (bound : List String)
    (found : List (Found (Option (List Char) × Kind))) :
    let scanned := extraction.addConstructions statement masked bound found
    ∃ added, Grows statement.line extraction scanned.1.extraction added ∧
      scanned.2 = bound ++ added.filterMap Event.holder := by
  induction found generalizing extraction bound with
  | nil => exact ⟨[], .refl _ _, (List.append_nil _).symm⟩
  | cons construction rest ih =>
    cases closed : Usage.argumentText? statement.text masked construction.stop with
    | none =>
      rw [addConstructions_unclosed closed]
      exact ih extraction bound
    | some text =>
      cases read : Arguments.read extraction.bindings text with
      | error fault =>
        rw [addConstructions_fault closed read]
        exact ⟨[], .refl _ _, (List.append_nil _).symm⟩
      | ok arguments =>
        rw [addConstructions_read closed read]
        obtain ⟨added, grown, names⟩ := ih
          (extraction.addEvent
            (.ofConstruction extraction.sourceId statement construction.value arguments))
          (bound ++ (construction.value.1.map String.ofList).toList)
        refine ⟨_, grown.behind rfl, names.trans ?_⟩
        rw [List.append_assoc, List.filterMap_cons, Event.ofConstruction]
        cases construction.value.1 <;> rfl

/-- A statement of a scan, with what had been found before it and what has been found behind it. -/
structure Visit where
  statement : Statement
  before : Extraction
  after : Extraction

/-- The statements of a scan that starts from an extraction. -/
def visits (extraction : Extraction) : List Statement → List Visit
  | [] => []
  | statement :: rest =>
    let after := (extraction.addStatement statement).extraction
    ⟨statement, extraction, after⟩ :: visits after rest

namespace Visit

def emitted (visit : Visit) : List Event :=
  visit.after.events.drop visit.before.events.length

def target? (visit : Visit) : Option String :=
  (assignment? visit.statement.text).map fun assigned => String.ofList assigned.1

/-- The statement neither binds the variable to a peripheral nor begins by assigning it. -/
def Spares (visit : Visit) (name : String) : Prop :=
  (∀ event ∈ visit.emitted, event.holder ≠ some name) ∧ visit.target? ≠ some name

/-- What the variable holds once the constructions of the statement are counted. -/
def held? (visit : Visit) (name : String) : Option Kind :=
  (lastKind? name visit.emitted).or (visit.before.holders.get? name)

/-- The calls in the statement of methods other than `new` on what holds a peripheral. -/
def calls (visit : Visit) : List MethodCall :=
  (matchesOf Usage.methodCall (mask visit.statement.text)).filterMap fun (receiver, method) =>
    if method = "new".toList then none
    else (visit.held? (String.ofList receiver)).map fun kind =>
      { kind := kind
        receiver := String.ofList receiver
        method := String.ofList method
        sourceId := visit.before.sourceId
        line := visit.statement.line }

/-- What a statement does that meets no fault. -/
structure Sound (visit : Visit) : Prop where
  sourceId : visit.after.sourceId = visit.before.sourceId
  events : visit.after.events = visit.before.events ++ visit.emitted
  lines : ∀ event ∈ visit.emitted, event.line = visit.statement.line
  methodCalls : visit.after.methodCalls = visit.before.methodCalls ++ visit.calls
  holders : ∀ name kind, visit.after.holders.get? name = some kind ↔
    lastKind? name visit.emitted = some kind ∨
      visit.Spares name ∧ visit.before.holders.get? name = some kind

end Visit

theorem methodCalls_addAssignment (extraction : Extraction) (text : List Char)
    (bound : List String) :
    (extraction.addAssignment text bound).methodCalls = extraction.methodCalls := by
  unfold addAssignment
  split <;> rfl

theorem sourceId_addAssignment (extraction : Extraction) (text : List Char) (bound : List String) :
    (extraction.addAssignment text bound).sourceId = extraction.sourceId := by
  unfold addAssignment
  split <;> rfl

/-- The target of an assignment holds a peripheral behind it only if a construction has bound it. -/
theorem holders_addAssignment (extraction : Extraction) (text : List Char) (bound : List String) :
    (extraction.addAssignment text bound).holders.get? name = some kind ↔
      ((assignment? text).map (fun assigned => String.ofList assigned.1) = some name →
        name ∈ bound) ∧ extraction.holders.get? name = some kind := by
  unfold addAssignment
  split
  · rename_i unassigned
    simp [unassigned]
  · rename_i target right assigned
    rw [assigned, Option.map_some, Option.some_inj]
    dsimp only
    split
    · rename_i held
      have mentioned : String.ofList target = name → name ∈ bound := by
        rintro rfl
        simpa using held
      exact (and_iff_right mentioned).symm
    · rename_i free
      rw [Dict.get?_without]
      by_cases same : name = String.ofList target
      · have absent : name ∉ bound := by simpa [same] using free
        simp [← same, absent]
      · simp [same, Ne.symm same]

/-- The calls that are recorded are those on what holds a peripheral once the constructions are
counted. -/
theorem callsOf_eq_calls {visit : Visit} {counted : Extraction}
    (named : counted.sourceId = visit.before.sourceId)
    (holders : ∀ name, counted.holders.get? name = visit.held? name) :
    counted.callsOf visit.statement.line (mask visit.statement.text) = visit.calls := by
  unfold callsOf Visit.calls
  congr 1
  funext ⟨receiver, method⟩
  dsimp only
  rw [holders, named]
  cases visit.held? (String.ofList receiver) with
  | none => simp
  | some kind => by_cases new : method = "new".toList <;> simp [new]

theorem Visit.sound_of_grows {visit : Visit} {counted : Extraction}
    (grown : Grows visit.statement.line visit.before counted added)
    (after : visit.after =
      { counted with
        methodCalls := counted.methodCalls ++
          counted.callsOf visit.statement.line (mask visit.statement.text) }.addAssignment
        visit.statement.text (added.filterMap Event.holder)) : visit.Sound := by
  have events : visit.after.events = visit.before.events ++ added := by
    rw [after, addAssignment_events, grown.events]
  have emitted : visit.emitted = added := by
    rw [Visit.emitted, events, List.drop_left]
  have held (name : String) : counted.holders.get? name = visit.held? name := by
    rw [grown.holders, Visit.held?, emitted]
  constructor
  case sourceId => rw [after, sourceId_addAssignment, grown.sourceId]
  case events => rw [emitted, events]
  case lines => exact emitted ▸ grown.lines
  case methodCalls =>
    rw [after, methodCalls_addAssignment, callsOf_eq_calls grown.sourceId held, grown.methodCalls]
  case holders =>
    intro name kind
    have bound : name ∈ added.filterMap Event.holder ↔ lastKind? name visit.emitted ≠ none := by
      rw [emitted, Ne, lastKind?_eq_none_iff]
      simp [List.mem_filterMap]
    rw [after, holders_addAssignment, bound, held, Visit.held?, Visit.Spares,
      ← lastKind?_eq_none_iff, Visit.target?]
    cases lastKind? name visit.emitted with
    | some last => simp
    | none => simp

theorem sound_visit (quiet : (extraction.addStatement statement).fault = none) :
    (Visit.mk statement extraction (extraction.addStatement statement).extraction).Sound := by
  obtain ⟨added, grown, bound⟩ := grows_addConstructions extraction statement
    (mask statement.text) [] (occurrences Usage.construction (mask statement.text))
  rw [← scanConstructions] at grown bound
  refine Visit.sound_of_grows grown ?_
  rw [addStatement_quiet (fault_addStatement extraction statement ▸ quiet), bound, List.nil_append]

/-- A scan without faults: a chain of sound visits. -/
inductive Passes : Extraction → List Visit → Extraction → Prop where
  | done (extraction : Extraction) : Passes extraction [] extraction
  | visit {visit : Visit} {rest : List Visit} {reached : Extraction} (sound : visit.Sound)
      (more : Passes visit.after rest reached) : Passes visit.before (visit :: rest) reached

/-- The variable was last bound to a peripheral of the kind, and the statements behind the one that
bound it leave it alone. -/
def Tracked (visits : List Visit) (name : String) (kind : Kind) : Prop :=
  ∃ early visit late, visits = early ++ visit :: late ∧
    lastKind? name visit.emitted = some kind ∧ ∀ later ∈ late, later.Spares name

theorem tracked_cons {visit : Visit} {rest : List Visit} :
    Tracked (visit :: rest) name kind ↔ Tracked rest name kind ∨
      lastKind? name visit.emitted = some kind ∧ ∀ later ∈ rest, later.Spares name := by
  constructor
  · rintro ⟨early, binding, late, split, last, spared⟩
    cases early with
    | nil =>
      obtain ⟨rfl, rfl⟩ := List.cons.inj split
      exact .inr ⟨last, spared⟩
    | cons first early =>
      obtain ⟨rfl, rfl⟩ := List.cons.inj split
      exact .inl ⟨early, binding, late, rfl, last, spared⟩
  · rintro (⟨early, binding, late, rfl, last, spared⟩ | ⟨last, spared⟩)
    · exact ⟨visit :: early, binding, late, rfl, last, spared⟩
    · exact ⟨[], visit, rest, rfl, last, spared⟩

namespace Passes

variable {scan : List Visit}

theorem events (passes : Passes start scan reached) :
    reached.events = start.events ++ scan.flatMap Visit.emitted := by
  induction passes with
  | done => simp
  | visit sound more ih => rw [ih, sound.events, List.flatMap_cons, List.append_assoc]

theorem methodCalls (passes : Passes start scan reached) :
    reached.methodCalls = start.methodCalls ++ scan.flatMap Visit.calls := by
  induction passes with
  | done => simp
  | visit sound more ih => rw [ih, sound.methodCalls, List.flatMap_cons, List.append_assoc]

/-- Behind a scan a variable holds what the scan tracks, or else what it held before, if the scan
leaves it alone. -/
theorem holders (passes : Passes start scan reached) :
    reached.holders.get? name = some kind ↔ Tracked scan name kind ∨
      (∀ visit ∈ scan, visit.Spares name) ∧ start.holders.get? name = some kind := by
  induction passes with
  | done extraction => simp [Tracked]
  | @visit visit rest reached sound more ih =>
    rw [ih, sound.holders, tracked_cons, List.forall_mem_cons]
    grind

theorem split {visit : Visit} {early late : List Visit}
    (passes : Passes start (early ++ visit :: late) reached) : Passes start early visit.before := by
  generalize whole : early ++ visit :: late = scan at passes
  induction passes generalizing early with
  | done => simp at whole
  | visit sound more ih =>
    cases early with
    | nil =>
      obtain ⟨rfl, rfl⟩ := List.cons.inj whole
      exact .done _
    | cons first early =>
      obtain ⟨rfl, rest⟩ := List.cons.inj whole
      exact .visit sound (ih rest)

end Passes

theorem passes_addStatements {statements : List Statement}
    (quiet : (extraction.addStatements statements).fault = none) :
    Passes extraction (visits extraction statements)
      (extraction.addStatements statements).extraction := by
  induction statements generalizing extraction with
  | nil => exact .done extraction
  | cons statement rest ih =>
    cases met : (extraction.addStatement statement).fault with
    | some fault =>
      rw [addStatements_fault met, met] at quiet
      cases quiet
    | none =>
      rw [addStatements_quiet met] at quiet ⊢
      exact .visit (sound_visit met) (ih quiet)

theorem map_statement_visits (extraction : Extraction) (statements : List Statement) :
    (visits extraction statements).map Visit.statement = statements := by
  induction statements generalizing extraction with
  | nil => rfl
  | cons statement rest ih => rw [visits, List.map_cons, ih]

/-- Every variable that holds a peripheral up to a line, and every method call, has an event of the
same kind that binds the variable, on that line or an earlier one. -/
structure Backed (line : Int) (extraction : Extraction) : Prop where
  holders : ∀ name kind, extraction.holders.get? name = some kind →
    ∃ event ∈ extraction.events,
      event.holder = some name ∧ event.kind = kind ∧ event.line ≤ line
  calls : ∀ call ∈ extraction.methodCalls, ∃ event ∈ extraction.events,
    event.holder = some call.receiver ∧ event.kind = call.kind ∧ event.line ≤ call.line

namespace Visit

variable {visit : Visit} {call : MethodCall}

theorem line_of_mem_calls (member : call ∈ visit.calls) : call.line = visit.statement.line := by
  obtain ⟨found, _, made⟩ := List.mem_filterMap.mp member
  dsimp only at made
  split at made
  · cases made
  · obtain ⟨kind, _, rfl⟩ := Option.map_eq_some_iff.mp made
    rfl

theorem held?_of_mem_calls (member : call ∈ visit.calls) :
    visit.held? call.receiver = some call.kind := by
  obtain ⟨found, _, made⟩ := List.mem_filterMap.mp member
  dsimp only at made
  split at made
  · cases made
  · obtain ⟨kind, held, rfl⟩ := Option.map_eq_some_iff.mp made
    exact held

theorem Sound.backed {line : Int} (sound : visit.Sound) (backed : Backed line visit.before)
    (later : line ≤ visit.statement.line) : Backed visit.statement.line visit.after := by
  have own {name : String} {kind : Kind} (last : lastKind? name visit.emitted = some kind) :
      ∃ event ∈ visit.after.events, event.holder = some name ∧ event.kind = kind ∧
        event.line ≤ visit.statement.line := by
    obtain ⟨event, member, holder, same⟩ := exists_of_lastKind? last
    refine ⟨event, ?_, holder, same, Int.le_of_eq (sound.lines event member)⟩
    rw [sound.events]
    exact List.mem_append_right _ member
  have earlier {name : String} {kind : Kind} (held : visit.before.holders.get? name = some kind) :
      ∃ event ∈ visit.after.events, event.holder = some name ∧ event.kind = kind ∧
        event.line ≤ visit.statement.line := by
    obtain ⟨event, member, holder, same, before⟩ := backed.holders name kind held
    refine ⟨event, ?_, holder, same, Int.le_trans before later⟩
    rw [sound.events]
    exact List.mem_append_left _ member
  constructor
  · intro name kind held
    rcases (sound.holders name kind).mp held with last | ⟨_, kept⟩
    · exact own last
    · exact earlier kept
  · intro call member
    rw [sound.methodCalls] at member
    rcases List.mem_append.mp member with old | new
    · obtain ⟨event, found, holder, same, before⟩ := backed.calls call old
      refine ⟨event, ?_, holder, same, before⟩
      rw [sound.events]
      exact List.mem_append_left _ found
    · rw [line_of_mem_calls new]
      rcases Option.or_eq_some_iff.mp (held?_of_mem_calls new) with last | ⟨_, kept⟩
      · exact own last
      · exact earlier kept

end Visit

/-- A scan of statements whose lines do not decrease keeps what holds a peripheral backed. -/
theorem Passes.backed {scan : List Visit} {line : Int} (passes : Passes start scan reached)
    (backed : Backed line start) (bound : ∀ visit ∈ scan, line ≤ visit.statement.line)
    (ordered : scan.Pairwise fun visit later => visit.statement.line ≤ later.statement.line) :
    ∃ last, Backed last reached := by
  induction passes generalizing line with
  | done extraction => exact ⟨line, backed⟩
  | visit sound more ih =>
    obtain ⟨first, rest⟩ := List.pairwise_cons.mp ordered
    refine ih (sound.backed backed (bound _ (List.mem_cons_self ..))) ?_ rest
    intro later member
    exact Int.ofNat_le.mpr (first later member)

/-- What scanning a source visits. -/
def scanOf (text sourceId : String) : List Visit :=
  visits { sourceId := sourceId } (statements text.toList)

theorem passes_of_extract {text sourceId : String}
    (extracted : extract text sourceId = .ok extraction) :
    Passes { sourceId := sourceId } (scanOf text sourceId) extraction := by
  obtain ⟨quiet, rfl⟩ := extract_eq_ok.mp extracted
  exact passes_addStatements quiet

theorem pairwise_scanOf (text sourceId : String) : (scanOf text sourceId).Pairwise
    fun visit later => visit.statement.line < later.statement.line := by
  have ordered := pairwise_line_statements text.toList
  rw [← map_statement_visits { sourceId := sourceId } (statements text.toList),
    List.pairwise_map] at ordered
  exact ordered

theorem pairwise_methodCalls {text sourceId : String}
    (extracted : extract text sourceId = .ok extraction) :
    extraction.methodCalls.Pairwise fun call later => call.line ≤ later.line := by
  rw [(passes_of_extract extracted).methodCalls, List.nil_append, List.pairwise_flatMap]
  constructor
  · intro visit _
    refine List.pairwise_of_forall_mem_list ?_
    intro call member later found
    exact Int.le_of_eq ((Visit.line_of_mem_calls member).trans (Visit.line_of_mem_calls found).symm)
  · refine (pairwise_scanOf text sourceId).imp ?_
    intro visit next before call member later found
    rw [Visit.line_of_mem_calls member, Visit.line_of_mem_calls found]
    exact Int.ofNat_le.mpr (Nat.le_of_lt before)

/-- A method call stands on the first line of a statement. -/
theorem exists_statement_of_call {text sourceId : String} {call : MethodCall}
    (extracted : extract text sourceId = .ok extraction)
    (member : call ∈ extraction.methodCalls) :
    ∃ statement ∈ statements text.toList, call.line = statement.line := by
  rw [(passes_of_extract extracted).methodCalls, List.nil_append] at member
  obtain ⟨visit, visited, made⟩ := List.mem_flatMap.mp member
  refine ⟨visit.statement, ?_, Visit.line_of_mem_calls made⟩
  rw [← map_statement_visits { sourceId := sourceId } (statements text.toList)]
  exact List.mem_map_of_mem visited

/-- From nothing, a variable holds exactly what a scan tracks. -/
theorem Passes.tracked {scan : List Visit} {sourceId : String}
    (passes : Passes { sourceId := sourceId } scan reached) :
    reached.holders.get? name = some kind ↔ Tracked scan name kind := by
  rw [passes.holders]
  simp

theorem usage_pos_iff (calls : ∀ call ∈ extraction.methodCalls,
      ∃ event ∈ extraction.events, event.kind = call.kind) (kind : Kind) :
    0 < extraction.usageCount kind ↔ 0 < extraction.instanceCount kind := by
  constructor
  · intro used
    rcases Nat.add_pos_iff_pos_or_pos.mp used with own | called
    · exact own
    · obtain ⟨call, member, same⟩ := List.countP_pos_iff.mp called
      obtain ⟨event, found, alike⟩ := calls call member
      exact List.countP_pos_iff.mpr ⟨event, found, by simpa [alike] using same⟩
  · intro constructed
    exact Nat.add_pos_left constructed _

/-- Before every statement of a source that can be extracted, and behind them all, a variable holds
a peripheral exactly if it was last bound to one of that kind and no later statement assigns it
anything else. The method calls are those on what holds a peripheral once the constructions of their
own statement are counted. So every call has an event that binds its receiver to its kind, on its
line or an earlier one, and exactly the kinds with constructions are used, at least as often. -/
theorem holders_follow_last_binding {text sourceId : String}
    (extracted : extract text sourceId = .ok extraction) :
    let scan := scanOf text sourceId
    scan.map Visit.statement = statements text.toList ∧
      (∀ early visit late, scan = early ++ visit :: late → ∀ name kind,
        visit.before.holders.get? name = some kind ↔ Tracked early name kind) ∧
      (∀ name kind, extraction.holders.get? name = some kind ↔ Tracked scan name kind) ∧
      extraction.events = scan.flatMap Visit.emitted ∧
      extraction.methodCalls = scan.flatMap Visit.calls ∧
      (∀ call ∈ extraction.methodCalls, ∃ event ∈ extraction.events,
        event.holder = some call.receiver ∧ event.kind = call.kind ∧ event.line ≤ call.line) ∧
      ∀ kind, (0 < extraction.usageCount kind ↔ 0 < extraction.instanceCount kind) ∧
        extraction.instanceCount kind ≤ extraction.usageCount kind := by
  intro scan
  have passes : Passes { sourceId := sourceId } scan extraction := passes_of_extract extracted
  have empty : Backed 0 { sourceId := sourceId } := ⟨nofun, nofun⟩
  obtain ⟨_, backed⟩ := passes.backed empty (fun visit _ => Int.natCast_nonneg _)
    ((pairwise_scanOf text sourceId).imp Nat.le_of_lt)
  refine ⟨map_statement_visits _ _, ?_, ?_, passes.events, passes.methodCalls, backed.calls, ?_⟩
  · intro early visit late whole name kind
    rw [whole] at passes
    exact passes.split.tracked
  · intro name kind
    exact passes.tracked
  · intro kind
    refine ⟨usage_pos_iff ?_ kind, Nat.le_add_right _ _⟩
    intro call member
    obtain ⟨event, found, _, same, _⟩ := backed.calls call member
    exact ⟨event, found, same⟩

theorem holders_follow_last_binding_rebound :
    let text := "led = GPIO.new(7); led.on\nled.write(1)\nled = led.read\nled.write(0)\n"
    ∃ extraction, extract text "main" = .ok extraction ∧
      extraction.methodCalls.map (fun call => (call.receiver, call.method, call.line)) =
        [("led", "on", 1), ("led", "write", 2), ("led", "read", 3)] ∧
      (∀ name kind, extraction.holders.get? name = some kind ↔
        Tracked (scanOf text "main") name kind) ∧
      extraction.methodCalls = (scanOf text "main").flatMap Visit.calls ∧
      (0 < extraction.usageCount .gpio ↔ 0 < extraction.instanceCount .gpio) := by
  intro text
  have quiet : (scanSource text "main").fault = none := by decide +kernel
  have extracted := extract_eq_ok.mpr ⟨quiet, rfl⟩
  obtain ⟨_, _, tracked, _, calls, _, counted⟩ := holders_follow_last_binding extracted
  exact ⟨_, extracted, by decide +kernel, tracked, calls, (counted .gpio).1⟩

end Extraction

end PinBudget
