import PinBudget.Proofs.Allocation.Invariant
import PinBudget.Usage.Extraction

/-!
Where records come from. The events of an extraction carry the name of its source, the claims of an
event carry the name that the event carries, and the record of a granted claim carries the claim's.
-/
namespace PinBudget

namespace Extraction

variable {extraction : Extraction} {sourceId : String}

/-- The extraction and all its events carry the name of the source. -/
structure Of (sourceId : String) (extraction : Extraction) : Prop where
  own : extraction.sourceId = sourceId
  events : ∀ event ∈ extraction.events, event.sourceId = sourceId

theorem Of.addEvent {event : Event} (named : extraction.Of sourceId)
    (same : event.sourceId = sourceId) : (extraction.addEvent event).Of sourceId := by
  refine ⟨named.own, ?_⟩
  intro other member
  rcases List.mem_append.mp member with earlier | latest
  · exact named.events other earlier
  · rw [List.mem_singleton.mp latest]
    exact same

theorem Of.addConstructions (statement : Source.Statement) (masked : List Char)
    (bound : List String) (found : List (Source.Found (Option (List Char) × Kind)))
    (named : extraction.Of sourceId) :
    (extraction.addConstructions statement masked bound found).1.extraction.Of sourceId := by
  induction found generalizing extraction bound with
  | nil => exact named
  | cons construction rest ih =>
    rw [Extraction.addConstructions]
    split
    · exact ih bound named
    · split
      · exact named
      · exact ih _ (named.addEvent named.own)

theorem Of.addAssignment (text : List Char) (bound : List String)
    (named : extraction.Of sourceId) : (extraction.addAssignment text bound).Of sourceId := by
  unfold Extraction.addAssignment
  split
  · exact named
  · exact ⟨named.own, named.events⟩

theorem Of.addStatement (statement : Source.Statement) (named : extraction.Of sourceId) :
    (extraction.addStatement statement).extraction.Of sourceId := by
  have reached := named.addConstructions statement (Source.mask statement.text) []
    (Source.occurrences Usage.construction (Source.mask statement.text))
  rw [Extraction.addStatement]
  generalize extraction.addConstructions statement (Source.mask statement.text) []
    (Source.occurrences Usage.construction (Source.mask statement.text)) = scan at *
  obtain ⟨scanned, bound⟩ := scan
  simp only
  split
  · exact reached
  · exact Of.addAssignment _ _ ⟨reached.own, reached.events⟩

theorem Of.addStatements (statements : List Source.Statement) (named : extraction.Of sourceId) :
    (extraction.addStatements statements).extraction.Of sourceId := by
  induction statements generalizing extraction with
  | nil => exact named
  | cons statement rest ih =>
    rw [Extraction.addStatements]
    split
    · exact named.addStatement statement
    · exact ih (named.addStatement statement)

end Extraction

theorem extract_of {text sourceId : String} {extraction : Extraction}
    (extracted : extract text sourceId = .ok extraction) : extraction.Of sourceId := by
  have scanned : (scanSource text sourceId).extraction.Of sourceId :=
    Extraction.Of.addStatements _ ⟨rfl, fun _ member => absurd member List.not_mem_nil⟩
  simp only [extract] at extracted
  split at extracted
  · cases extracted
  · cases extracted
    exact scanned

/-- A claim that the request makes carries the name of the source. -/
inductive Request.Of (sourceId : String) : Request → Prop where
  | claim {claim : Claim} (own : claim.sourceId = sourceId) : Of sourceId (.claim claim)
  | note (warning : String) : Of sourceId (.note warning)
  | issue (issue : Issue) : Of sourceId (.issue issue)
  | stop (fault : Fault) : Of sourceId (.stop fault)

namespace Event

variable (event : Event)

theorem of_roleRequest (role : PinRole) : (event.roleRequest role).Of event.sourceId := by
  simp only [roleRequest]
  split
  · exact .note _
  · split
    · exact .stop _
    · exact .claim rfl

theorem of_lineRequest (role : String) (value : Value) (unit : Option Int) :
    (event.lineRequest role value unit).Of event.sourceId := by
  unfold lineRequest
  split
  · exact .note _
  · exact .claim rfl

theorem of_unknownUnit (unit : Int) : (event.unknownUnit unit).Of event.sourceId := by
  unfold unknownUnit
  split
  · exact .stop _
  · exact .issue _

theorem of_unitOr {default : Int} {reason : Request}
    (unusable : event.unitOr default = .unusable reason) : reason.Of event.sourceId := by
  unfold unitOr at unusable
  repeat' split at unusable
  all_goals cases unusable
  all_goals constructor

theorem of_spiRequests (validators : Validators) :
    ∀ request ∈ event.spiRequests validators, request.Of event.sourceId := by
  unfold spiRequests
  split
  · rename_i reason unusable
    exact List.forall_mem_singleton.mpr (event.of_unitOr unusable)
  · split
    · exact List.forall_mem_singleton.mpr (.stop _)
    · split
      · exact List.forall_mem_singleton.mpr (event.of_unknownUnit _)
      · simp only [List.forall_mem_cons]
        exact ⟨.claim rfl, .claim rfl, .claim rfl, List.forall_mem_nil _⟩

theorem of_uartDefaultRequests (validators : Validators) (unit : Int) :
    ∀ request ∈ event.uartDefaultRequests validators unit, request.Of event.sourceId := by
  unfold uartDefaultRequests
  split
  · exact List.forall_mem_singleton.mpr (.stop _)
  · split
    · exact List.forall_mem_singleton.mpr (event.of_unknownUnit _)
    · simp only [List.forall_mem_cons]
      exact ⟨.claim rfl, .claim rfl, List.forall_mem_nil _⟩

theorem of_uartUnitRequests (validators : Validators) :
    ∀ request ∈ event.uartUnitRequests validators, request.Of event.sourceId := by
  simp only [uartUnitRequests]
  split
  · rename_i reason unusable
    have own := event.of_unitOr unusable
    split
    · exact List.forall_mem_singleton.mpr own
    · simp only [List.forall_mem_cons]
      exact ⟨own, event.of_lineRequest _ _ _, event.of_lineRequest _ _ _, List.forall_mem_nil _⟩
  · split
    · exact event.of_uartDefaultRequests validators _
    · simp only [List.forall_mem_cons]
      exact ⟨event.of_lineRequest _ _ _, event.of_lineRequest _ _ _, List.forall_mem_nil _⟩

theorem of_uartRequests (validators : Validators) :
    ∀ request ∈ event.uartRequests validators, request.Of event.sourceId := by
  unfold uartRequests
  split
  · split
    · split
      · exact List.forall_mem_singleton.mpr (.stop _)
      · exact List.forall_mem_singleton.mpr (.claim rfl)
      · exact event.of_uartUnitRequests validators
    · exact event.of_uartUnitRequests validators
  · exact event.of_uartUnitRequests validators

theorem of_requests (validators : Validators) :
    ∀ request ∈ event.requests validators, request.Of event.sourceId := by
  unfold requests
  split
  · exact event.of_uartRequests validators
  · split
    · exact event.of_spiRequests validators
    · intro request member
      obtain ⟨role, _, rfl⟩ := List.mem_map.mp member
      exact event.of_roleRequest role

end Event

namespace Registry

variable {registry : Registry} {sourceId : String}

/-- All records carry the name of the source. -/
def Of (sourceId : String) (registry : Registry) : Prop :=
  ∀ record ∈ registry.accepted, record.sourceId = sourceId

theorem Of.claim {claim : Claim} (named : registry.Of sourceId)
    (own : claim.sourceId = sourceId) : (registry.claim claim).registry.Of sourceId := by
  unfold Registry.claim
  cases judged : registry.verdict claim with
  | accepted record warnings =>
    obtain ⟨_, _, validator, entry, info, _, _, same⟩ := Claim.verdict_accepted judged
    intro other member
    rcases List.mem_append.mp member with earlier | latest
    · exact named other earlier
    · rw [List.mem_singleton.mp latest, same]
      exact own
  | _ => exact named

theorem Of.handle {request : Request} (named : registry.Of sourceId)
    (own : request.Of sourceId) : (registry.handle request).registry.Of sourceId := by
  cases own with
  | claim own => exact named.claim own
  | _ => exact named

theorem Of.handleAll {requests : List Request} (named : registry.Of sourceId)
    (own : ∀ request ∈ requests, request.Of sourceId) :
    (registry.handleAll requests).registry.Of sourceId := by
  induction requests generalizing registry with
  | nil => exact named
  | cons request rest ih =>
    have stepped := named.handle (own request (List.mem_cons_self ..))
    cases met : (registry.handle request).fault with
    | some fault =>
      rw [handleAll_cons_fault met]
      exact stepped
    | none =>
      rw [handleAll_cons_quiet met]
      exact ih stepped fun other member => own other (List.mem_cons_of_mem _ member)

/-- All records of a source carry its name. -/
theorem of_extract {text : String} {extraction : Extraction}
    (extracted : extract text sourceId = .ok extraction) :
    (fresh.processAll extraction.events).registry.Of sourceId := by
  refine Of.handleAll (fun _ member => absurd member List.not_mem_nil) ?_
  intro request member
  obtain ⟨event, found, asked⟩ := List.mem_flatMap.mp member
  have own := event.of_requests _ request asked
  rwa [(extract_of extracted).events event found] at own

end Registry

end PinBudget
