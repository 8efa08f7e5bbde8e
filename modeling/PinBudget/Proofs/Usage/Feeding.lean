import PinBudget.Proofs.Source.Joining
import PinBudget.Proofs.Text.Lines
import PinBudget.Proofs.Usage.Scanning

/-!
Feeding a source in pieces. Between two pieces an extraction carries its bindings and its holders,
and the statements of the second piece meet them as they would in one text; only the numbers of
their lines are smaller, by the lines of the first piece.
-/
namespace PinBudget

def Event.later (offset : Nat) (event : Event) : Event :=
  { event with line := event.line + offset }

def MethodCall.later (offset : Nat) (call : MethodCall) : MethodCall :=
  { call with line := call.line + offset }

namespace Extraction

open Source

/-- Two extractions that went on from `start` alike, the second with line numbers that are larger by
the offset. -/
structure Parallel (start : Extraction) (offset : Nat) (near far : Extraction) : Prop where
  sourceId : far.sourceId = near.sourceId
  bindings : far.bindings = near.bindings
  holders : far.holders = near.holders
  events : ∃ added, near.events = start.events ++ added ∧
    far.events = start.events ++ added.map (Event.later offset)
  methodCalls : ∃ added, near.methodCalls = start.methodCalls ++ added ∧
    far.methodCalls = start.methodCalls ++ added.map (MethodCall.later offset)

namespace Parallel

variable {start near far : Extraction} {offset : Nat}

theorem refl (start : Extraction) (offset : Nat) : start.Parallel offset start start :=
  ⟨rfl, rfl, rfl, ⟨[], by simp⟩, ⟨[], by simp⟩⟩

theorem addEvent (alike : start.Parallel offset near far) (event : Event) :
    start.Parallel offset (near.addEvent event) (far.addEvent (event.later offset)) := by
  obtain ⟨added, before, after⟩ := alike.events
  refine ⟨alike.sourceId, alike.bindings, ?_, ⟨added ++ [event], ?_, ?_⟩, alike.methodCalls⟩
  · simp only [Extraction.addEvent, Event.later, alike.holders]
  · simp [Extraction.addEvent, before]
  · simp [Extraction.addEvent, after]

theorem addConstructions (alike : start.Parallel offset near far) (statement : Statement)
    (masked : List Char) (bound : List String)
    (found : List (Found (Option (List Char) × Kind))) :
    let below := near.addConstructions statement masked bound found
    let above := far.addConstructions (statement.later offset) masked bound found
    above.1.fault = below.1.fault ∧ above.2 = below.2 ∧
      start.Parallel offset below.1.extraction above.1.extraction := by
  induction found generalizing near far bound with
  | nil => exact ⟨rfl, rfl, alike⟩
  | cons construction rest ih =>
    have text : (statement.later offset).text = statement.text := rfl
    cases closed : Usage.argumentText? statement.text masked construction.stop with
    | none =>
      rw [addConstructions_unclosed closed, addConstructions_unclosed (text ▸ closed)]
      exact ih alike bound
    | some inside =>
      cases read : Arguments.read near.bindings inside with
      | error fault =>
        rw [addConstructions_fault closed read,
          addConstructions_fault (text ▸ closed) (alike.bindings.symm ▸ read)]
        exact ⟨rfl, rfl, alike⟩
      | ok arguments =>
        have grown := alike.addEvent
          (.ofConstruction near.sourceId statement construction.value arguments)
        rw [addConstructions_read closed read,
          addConstructions_read (text ▸ closed) (alike.bindings.symm ▸ read), alike.sourceId]
        exact ih grown _

theorem scanConstructions (alike : start.Parallel offset near far) (statement : Statement) :
    let below := near.scanConstructions statement
    let above := far.scanConstructions (statement.later offset)
    above.1.fault = below.1.fault ∧ above.2 = below.2 ∧
      start.Parallel offset below.1.extraction above.1.extraction :=
  alike.addConstructions statement (mask statement.text) [] _

theorem addCalls (alike : start.Parallel offset near far) (line : Nat) (masked : List Char) :
    start.Parallel offset
      { near with methodCalls := near.methodCalls ++ near.callsOf line masked }
      { far with methodCalls := far.methodCalls ++ far.callsOf (line + offset) masked } := by
  have later : far.callsOf (line + offset) masked =
      (near.callsOf line masked).map (MethodCall.later offset) := by
    simp only [callsOf, alike.holders, alike.sourceId, List.map_filterMap]
    congr 1
    funext call
    split
    · rfl
    · split <;> rfl
  obtain ⟨added, before, after⟩ := alike.methodCalls
  refine ⟨alike.sourceId, alike.bindings, alike.holders, alike.events,
    ⟨added ++ near.callsOf line masked, ?_, ?_⟩⟩
  · simp [before]
  · simp [after, later]

theorem addAssignment (alike : start.Parallel offset near far) (text : List Char)
    (bound : List String) :
    start.Parallel offset (near.addAssignment text bound) (far.addAssignment text bound) := by
  unfold Extraction.addAssignment
  split
  · exact alike
  · refine ⟨alike.sourceId, ?_, ?_, alike.events, alike.methodCalls⟩
    · simp only [alike.bindings]
    · simp only [alike.holders]

theorem addStatement (alike : start.Parallel offset near far) (statement : Statement) :
    (far.addStatement (statement.later offset)).fault = (near.addStatement statement).fault ∧
      start.Parallel offset (near.addStatement statement).extraction
        (far.addStatement (statement.later offset)).extraction := by
  obtain ⟨fault, bound, grown⟩ := alike.scanConstructions statement
  cases met : (near.scanConstructions statement).1.fault with
  | some cause =>
    rw [addStatement_fault met, addStatement_fault (fault.trans met)]
    exact ⟨fault, grown⟩
  | none =>
    rw [addStatement_quiet met, addStatement_quiet (fault.trans met)]
    rw [bound]
    exact ⟨rfl, (grown.addCalls statement.line (mask statement.text)).addAssignment _ _⟩

/-- The same statements further down lead to the same, further down. -/
theorem addStatements (alike : start.Parallel offset near far) (statements : List Statement) :
    let below := near.addStatements statements
    let above := far.addStatements (statements.map (Statement.later offset))
    above.fault = below.fault ∧ start.Parallel offset below.extraction above.extraction := by
  induction statements generalizing near far with
  | nil => exact ⟨rfl, alike⟩
  | cons statement rest ih =>
    obtain ⟨fault, grown⟩ := alike.addStatement statement
    rw [List.map_cons]
    cases met : (near.addStatement statement).fault with
    | some cause =>
      rw [addStatements_fault met, addStatements_fault (fault.trans met)]
      exact ⟨fault, grown⟩
    | none =>
      rw [addStatements_quiet met, addStatements_quiet (fault.trans met)]
      exact ih grown

end Parallel

/-- A text that is empty or ends in a line feed, and whose last statement does not wait for more
lines, can be fed on its own: feeding the rest then ends as feeding both at once does, with a fault
or without, and with the same findings but for the line numbers of those in the rest. -/
theorem feed_append (extraction : Extraction) (first second : String)
    (ended : first = "" ∨ first.toList.getLast? = some '\n')
    (complete : Complete 1 (Text.lines first.toList))
    (quiet : (extraction.feed first).fault = none) :
    let reached := (extraction.feed first).extraction
    let apart := reached.feed second
    let whole := extraction.feed (first ++ second)
    whole.fault = apart.fault ∧
      reached.Parallel (Text.lines first.toList).length apart.extraction whole.extraction := by
  have broken : first.toList = [] ∨ first.toList.getLast? = some '\n' :=
    ended.imp_left fun empty => by rw [empty]; rfl
  have whole : extraction.feed (first ++ second) =
      (extraction.feed first).extraction.addStatements
        ((statements second.toList).map (Statement.later (Text.lines first.toList).length)) := by
    unfold feed statements at *
    rw [String.toList_append, Text.lines_append broken, statementsFrom_append _ complete,
      addStatements_append _ quiet, statementsFrom_add]
  intro reached
  rw [whole]
  exact (Parallel.refl reached _).addStatements _

theorem feed_append_bound_pin :
    let extraction : Extraction := { sourceId := "main" }
    let first := "pin = 5\nled = GPIO.new(\n  pin)\n"
    let second := "led.write(1)\nkey = GPIO.new(pin)\n"
    let reached := (extraction.feed first).extraction
    first.toList.getLast? = some '\n' ∧ Complete 1 (Text.lines first.toList) ∧
      (extraction.feed first).fault = none ∧ (Text.lines first.toList).length = 3 ∧
      (extraction.feed (first ++ second)).fault = (reached.feed second).fault ∧
      reached.Parallel 3 (reached.feed second).extraction
        (extraction.feed (first ++ second)).extraction := by
  intro extraction first second reached
  have ended : first.toList.getLast? = some '\n' := by decide +kernel
  have complete : Complete 1 (Text.lines first.toList) := by
    have found : statementsFrom 1 (Text.lines first.toList) =
        [⟨1, "pin = 5".toList⟩, ⟨2, "led = GPIO.new( pin)".toList⟩] := by decide +kernel
    intro statement last
    rw [found] at last
    cases last
    exact .inl (by decide +kernel)
  have quiet : (extraction.feed first).fault = none := by decide +kernel
  have counted : (Text.lines first.toList).length = 3 := by decide +kernel
  have fed := feed_append extraction first second (.inr ended) complete quiet
  rw [counted] at fed
  exact ⟨ended, complete, quiet, counted, fed⟩

end Extraction

end PinBudget
