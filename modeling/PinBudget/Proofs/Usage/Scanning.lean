import PinBudget.Usage.Extraction

/-!
What scanning does at each step: one construction, one statement, one list of statements behind
another. Everything said later about whole scans rests on these equations.
-/
namespace PinBudget

open Source

/-- The event of a construction that is found in a statement, with its arguments. -/
def Event.ofConstruction (sourceId : String) (statement : Statement)
    (construction : Option (List Char) × Kind) (arguments : Arguments) : Event :=
  { kind := construction.2
    sourceId := sourceId
    line := statement.line
    holder := construction.1.map String.ofList
    positional := arguments.positional
    named := arguments.named
    raw := String.ofList statement.text }

namespace Extraction

variable {extraction : Extraction} {statement : Statement} {masked text : List Char}
variable {bound : List String} {found : Found (Option (List Char) × Kind)}
variable {rest : List (Found (Option (List Char) × Kind))} {fault : Fault} {arguments : Arguments}

/-- A construction whose parentheses never close is passed over. -/
theorem addConstructions_unclosed
    (unclosed : Usage.argumentText? statement.text masked found.stop = none) :
    extraction.addConstructions statement masked bound (found :: rest) =
      extraction.addConstructions statement masked bound rest := by
  rw [addConstructions]
  simp only [unclosed]

theorem addConstructions_fault
    (closed : Usage.argumentText? statement.text masked found.stop = some text)
    (unread : Arguments.read extraction.bindings text = .error fault) :
    extraction.addConstructions statement masked bound (found :: rest) =
      ({ extraction := extraction, fault := some fault }, bound) := by
  rw [addConstructions]
  simp only [closed, unread]

theorem addConstructions_read
    (closed : Usage.argumentText? statement.text masked found.stop = some text)
    (read : Arguments.read extraction.bindings text = .ok arguments) :
    extraction.addConstructions statement masked bound (found :: rest) =
      (extraction.addEvent
        (.ofConstruction extraction.sourceId statement found.value arguments)).addConstructions
          statement masked (bound ++ (found.value.1.map String.ofList).toList) rest := by
  rw [addConstructions]
  simp only [closed, read]
  rfl

/-- The constructions of a statement, scanned from an extraction. -/
def scanConstructions (extraction : Extraction) (statement : Statement) :
    Scanned × List String :=
  extraction.addConstructions statement (mask statement.text) []
    (occurrences Usage.construction (mask statement.text))

theorem addStatement_fault (met : (extraction.scanConstructions statement).1.fault = some fault) :
    extraction.addStatement statement = (extraction.scanConstructions statement).1 := by
  unfold scanConstructions at *
  rw [addStatement]
  simp only [met]

theorem addStatement_quiet (quiet : (extraction.scanConstructions statement).1.fault = none) :
    extraction.addStatement statement =
      { extraction :=
          let reached := (extraction.scanConstructions statement).1.extraction
          { reached with
            methodCalls := reached.methodCalls ++
              reached.callsOf statement.line (mask statement.text) }.addAssignment
            statement.text (extraction.scanConstructions statement).2 } := by
  unfold scanConstructions at *
  rw [addStatement]
  simp only [quiet]

theorem addAssignment_events (extraction : Extraction) (text : List Char) (bound : List String) :
    (extraction.addAssignment text bound).events = extraction.events := by
  unfold addAssignment
  split <;> rfl

theorem fault_addStatement (extraction : Extraction) (statement : Statement) :
    (extraction.addStatement statement).fault = (extraction.scanConstructions statement).1.fault := by
  cases met : (extraction.scanConstructions statement).1.fault with
  | some fault => rw [addStatement_fault met, met]
  | none => rw [addStatement_quiet met]

theorem events_addStatement (extraction : Extraction) (statement : Statement) :
    (extraction.addStatement statement).extraction.events =
      (extraction.scanConstructions statement).1.extraction.events := by
  cases met : (extraction.scanConstructions statement).1.fault with
  | some fault => rw [addStatement_fault met]
  | none =>
    rw [addStatement_quiet met]
    simp only [addAssignment_events]

theorem addStatement_unread (statement : Statement)
    (only : occurrences Usage.construction (mask statement.text) = [found])
    (closed : Usage.argumentText? statement.text (mask statement.text) found.stop = some text)
    (unread : Arguments.read extraction.bindings text = .error fault) :
    (extraction.addStatement statement).fault = some fault := by
  rw [fault_addStatement, scanConstructions, only, addConstructions_fault closed unread]

theorem addStatement_read (statement : Statement)
    (only : occurrences Usage.construction (mask statement.text) = [found])
    (closed : Usage.argumentText? statement.text (mask statement.text) found.stop = some text)
    (read : Arguments.read extraction.bindings text = .ok arguments) :
    (extraction.addStatement statement).fault = none ∧
      (extraction.addStatement statement).extraction.events = extraction.events ++
        [.ofConstruction extraction.sourceId statement found.value arguments] := by
  rw [fault_addStatement, events_addStatement, scanConstructions, only,
    addConstructions_read closed read]
  exact ⟨rfl, rfl⟩

variable {statements : List Statement}

theorem addStatements_fault (met : (extraction.addStatement statement).fault = some fault) :
    extraction.addStatements (statement :: statements) = extraction.addStatement statement := by
  rw [addStatements]
  simp only [met]

theorem addStatements_quiet (quiet : (extraction.addStatement statement).fault = none) :
    extraction.addStatements (statement :: statements) =
      (extraction.addStatement statement).extraction.addStatements statements := by
  rw [addStatements]
  simp only [quiet]

theorem addStatements_singleton (extraction : Extraction) (statement : Statement) :
    extraction.addStatements [statement] = extraction.addStatement statement := by
  cases met : (extraction.addStatement statement).fault with
  | some fault => rw [addStatements_fault met]
  | none => rw [addStatements_quiet met, addStatements, ← met]

/-- A scan that meets no fault leaves the statements behind it to a scan from where it ended. -/
theorem addStatements_append (back : List Statement)
    (quiet : (extraction.addStatements statements).fault = none) :
    extraction.addStatements (statements ++ back) =
      (extraction.addStatements statements).extraction.addStatements back := by
  induction statements generalizing extraction with
  | nil => rfl
  | cons statement rest ih =>
    cases met : (extraction.addStatement statement).fault with
    | some fault =>
      rw [addStatements_fault met, met] at quiet
      cases quiet
    | none =>
      rw [addStatements_quiet met] at quiet
      rw [List.cons_append, addStatements_quiet met, addStatements_quiet met, ih quiet]

end Extraction

/-- A source is extracted where its scan meets no fault, and then to what the scan reached. -/
theorem extract_eq_ok {text sourceId : String} {extraction : Extraction} :
    extract text sourceId = .ok extraction ↔
      (scanSource text sourceId).fault = none ∧
        (scanSource text sourceId).extraction = extraction := by
  rw [extract]
  split <;> simp [*]

end PinBudget
