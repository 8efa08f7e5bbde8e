import PinBudget.Proofs.Dict
import PinBudget.Proofs.Source.Assignment
import PinBudget.Proofs.Source.QuotedContent
import PinBudget.Proofs.Usage.ArgumentText
import PinBudget.Proofs.Usage.Scanning

/-!
Extraction from two sources that differ only in quoted content. Arguments and right-hand sides may
differ, and nothing else does: the scans find the same constructions on the same lines, attribute
the same method calls and bind the same names.
-/
namespace PinBudget

open Source

/-- What a construction is apart from its arguments: its kind, the variable that holds it and its
line. -/
def Event.place (event : Event) : Kind × Option String × Int :=
  (event.kind, event.holder, event.line)

namespace Extraction

/-- Two extractions that agree but for arguments and right-hand sides. -/
structure Agrees (first second : Extraction) : Prop where
  sourceId : first.sourceId = second.sourceId
  events : first.events.map Event.place = second.events.map Event.place
  methodCalls : first.methodCalls = second.methodCalls
  holders : first.holders = second.holders
  names : first.bindings.map Prod.fst = second.bindings.map Prod.fst

namespace Agrees

variable {first second : Extraction} {statement partner : Statement}

theorem refl (extraction : Extraction) : extraction.Agrees extraction :=
  ⟨rfl, rfl, rfl, rfl, rfl⟩

theorem addEvent (agrees : first.Agrees second) {event other : Event}
    (same : event.place = other.place) : (first.addEvent event).Agrees (second.addEvent other) := by
  obtain ⟨kind, rest⟩ := Prod.mk.inj same
  obtain ⟨holder, _⟩ := Prod.mk.inj rest
  refine ⟨agrees.sourceId, ?_, agrees.methodCalls, ?_, agrees.names⟩
  · simp only [Extraction.addEvent, List.map_append, agrees.events, List.map_cons, List.map_nil, same]
  · simp only [Extraction.addEvent, kind, holder, agrees.holders]

end Agrees

end Extraction

/-- Whether the parentheses of a construction close does not depend on quoted content. -/
theorem Usage.isSome_argumentText? {text other : List Char} (same : SameCode text other)
    (masked : List Char) (stop : Nat) :
    (argumentText? text masked stop).isSome = (argumentText? other masked stop).isSome := by
  rw [argumentText?_eq, argumentText?_eq]
  cases parenthesisBehind? masked stop with
  | none => rfl
  | some opening =>
    simp only [Option.elim_some, Option.isSome_map, same.findClosing?_eq]

namespace Extraction.Agrees

variable {first second : Extraction} {statement partner : Statement}

theorem addConstructions (agrees : first.Agrees second) (matched : statement.Matches SameCode partner)
    (masked : List Char) (bound : List String) (found : List (Found (Option (List Char) × Kind)))
    (quiet : (first.addConstructions statement masked bound found).1.fault = none)
    (quietPartner : (second.addConstructions partner masked bound found).1.fault = none) :
    let below := first.addConstructions statement masked bound found
    let above := second.addConstructions partner masked bound found
    below.1.extraction.Agrees above.1.extraction ∧ below.2 = above.2 := by
  induction found generalizing first second bound with
  | nil => exact ⟨agrees, rfl⟩
  | cons construction rest ih =>
    have closing := Usage.isSome_argumentText? matched.text masked construction.stop
    cases closed : Usage.argumentText? statement.text masked construction.stop with
    | none =>
      have unclosed : Usage.argumentText? partner.text masked construction.stop = none := by
        simpa [closed] using closing.symm
      rw [addConstructions_unclosed closed] at quiet ⊢
      rw [addConstructions_unclosed unclosed] at quietPartner ⊢
      exact ih agrees bound quiet quietPartner
    | some inside =>
      obtain ⟨other, closedPartner⟩ :
          ∃ other, Usage.argumentText? partner.text masked construction.stop = some other :=
        Option.isSome_iff_exists.mp (by rw [← closing, closed]; rfl)
      cases read : Arguments.read first.bindings inside with
      | error fault =>
        rw [addConstructions_fault closed read] at quiet
        cases quiet
      | ok arguments =>
        cases readPartner : Arguments.read second.bindings other with
        | error fault =>
          rw [addConstructions_fault closedPartner readPartner] at quietPartner
          cases quietPartner
        | ok others =>
          rw [addConstructions_read closed read] at quiet ⊢
          rw [addConstructions_read closedPartner readPartner] at quietPartner ⊢
          refine ih (agrees.addEvent ?_) _ quiet quietPartner
          simp only [Event.place, Event.ofConstruction, matched.line]

theorem scanConstructions (agrees : first.Agrees second)
    (matched : statement.Matches SameCode partner)
    (quiet : (first.scanConstructions statement).1.fault = none)
    (quietPartner : (second.scanConstructions partner).1.fault = none) :
    (first.scanConstructions statement).1.extraction.Agrees
        (second.scanConstructions partner).1.extraction ∧
      (first.scanConstructions statement).2 = (second.scanConstructions partner).2 := by
  unfold Extraction.scanConstructions at *
  rw [← matched.text.mask_eq] at quietPartner ⊢
  exact agrees.addConstructions matched _ [] _ quiet quietPartner

theorem addCalls (agrees : first.Agrees second) (line : Nat) (masked : List Char) :
    { first with methodCalls := first.methodCalls ++ first.callsOf line masked }.Agrees
      { second with methodCalls := second.methodCalls ++ second.callsOf line masked } := by
  have calls : first.callsOf line masked = second.callsOf line masked := by
    simp only [callsOf, agrees.holders, agrees.sourceId]
  exact ⟨agrees.sourceId, agrees.events, by rw [agrees.methodCalls, calls], agrees.holders,
    agrees.names⟩

theorem addAssignment (agrees : first.Agrees second) {text other : List Char}
    (same : (assignment? text).map Prod.fst = (assignment? other).map Prod.fst)
    (bound : List String) :
    (first.addAssignment text bound).Agrees (second.addAssignment other bound) := by
  unfold Extraction.addAssignment
  cases own : assignment? text with
  | none =>
    cases further : assignment? other with
    | none => exact agrees
    | some assigned => simp [own, further] at same
  | some assigned =>
    cases further : assignment? other with
    | none => simp [own, further] at same
    | some assignedOther =>
      obtain ⟨target, right⟩ := assigned
      obtain ⟨targetOther, rightOther⟩ := assignedOther
      have target_eq : target = targetOther := by simpa [own, further] using same
      subst target_eq
      refine ⟨agrees.sourceId, agrees.events, agrees.methodCalls, ?_, ?_⟩
      · simp only [agrees.holders]
      · exact Dict.map_fst_set agrees.names

theorem addStatement (agrees : first.Agrees second) (matched : statement.Matches SameCode partner)
    (quiet : (first.addStatement statement).fault = none)
    (quietPartner : (second.addStatement partner).fault = none) :
    (first.addStatement statement).extraction.Agrees (second.addStatement partner).extraction := by
  rw [fault_addStatement] at quiet quietPartner
  obtain ⟨reached, bound⟩ := agrees.scanConstructions matched quiet quietPartner
  rw [addStatement_quiet quiet, addStatement_quiet quietPartner, ← bound, ← matched.line,
    ← matched.text.mask_eq]
  refine (reached.addCalls statement.line (mask statement.text)).addAssignment ?_ _
  rw [← target_mask, matched.text.mask_eq, target_mask]

/-- Statements that differ only in quoted content lead two scans to the same findings. -/
theorem addStatements {statements partners : List Statement} (agrees : first.Agrees second)
    (matched : List.Forall₂ (Statement.Matches SameCode) statements partners)
    (quiet : (first.addStatements statements).fault = none)
    (quietPartner : (second.addStatements partners).fault = none) :
    (first.addStatements statements).extraction.Agrees
      (second.addStatements partners).extraction := by
  induction matched generalizing first second with
  | nil => exact agrees
  | @cons statement partner rest others head tail ih =>
    cases own : (first.addStatement statement).fault with
    | some fault =>
      rw [addStatements_fault own, own] at quiet
      cases quiet
    | none =>
      cases further : (second.addStatement partner).fault with
      | some fault =>
        rw [addStatements_fault further, further] at quietPartner
        cases quietPartner
      | none =>
        rw [addStatements_quiet own] at quiet ⊢
        rw [addStatements_quiet further] at quietPartner ⊢
        exact ih (agrees.addStatement head own further) quiet quietPartner

end Extraction.Agrees

end PinBudget
