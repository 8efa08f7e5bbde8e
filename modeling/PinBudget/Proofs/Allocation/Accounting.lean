import PinBudget.Proofs.Allocation.Overlay

/-!
What a run of requests comes to, whatever their order. Which pins are held in the end, and how many
claims were granted or refused, can be read off the requests one by one, as if each of them came
first.
-/
namespace PinBudget

/-- The pin that a verdict grants. -/
def Verdict.pin? : Verdict → Option Pin
  | accepted record _ => some record.pin
  | refused _ | unchecked _ | stopped _ => none

namespace Request

variable (validators : Validators)

/-- The pin that a request gets, if the pin is free. -/
def pin? : Request → Option Pin
  | claim asked => (asked.verdict (validators asked.kind) []).pin?
  | note _ | issue _ | stop _ => none

/-- Whether a request ends with a granted pin or with an issue, and not with a warning. -/
def isDecided : Request → Bool
  | claim asked => (validators asked.kind).isNone || !asked.value.mentionsName
  | issue _ => true
  | note _ | stop _ => false

end Request

namespace Registry

variable {registry : Registry} {request : Request} {requests : List Request}

def decisions (registry : Registry) : Nat :=
  registry.accepted.length + registry.errors.length

/-- What a request that meets no fault does to a registry. -/
inductive Handling (registry : Registry) (request : Request) : Registry → Prop where
  | granted {record : Record} (free : registry.pinMap.get? record.pin = none)
      (gets : request.pin? registry.validators = some record.pin)
      (decided : request.isDecided registry.validators = true) (warnings : List String) :
      Handling registry request ((registry.grant record).addWarnings warnings)
  | refused (taken : ∀ pin, request.pin? registry.validators = some pin →
        registry.pinMap.has pin = true)
      (decided : request.isDecided registry.validators = true) (issue : Issue) :
      Handling registry request (registry.addError issue)
  | noted (nothing : request.pin? registry.validators = none)
      (undecided : request.isDecided registry.validators = false) (warning : String) :
      Handling registry request (registry.addWarnings [warning])

theorem literalPin?_of_pin? {claim : Claim} {validators : Validators} {pin : Pin}
    (gets : (Request.claim claim).pin? validators = some pin) :
    claim.value.literalPin? = some pin := by
  rw [Request.pin?] at gets
  cases judged : claim.verdict (validators claim.kind) [] with
  | accepted record warnings =>
    rw [judged] at gets
    cases gets
    exact (Claim.verdict_accepted judged).1
  | _ =>
    rw [judged] at gets
    cases gets

/-- A claim on a free pin gets what it would get if no pin were held. -/
theorem pin?_of_free {claim : Claim} {pin : Pin} {validator : Validator}
    (offered : registry.validators claim.kind = some validator)
    (named : claim.value.literalPin? = some pin) (free : registry.pinMap.get? pin = none) :
    (Request.claim claim).pin? registry.validators =
      (claim.verdict (some validator) registry.pinMap).pin? := by
  rw [Request.pin?, offered, ← Claim.verdict_of_untaken]
  intro other same
  cases Option.some.inj (named.symm.trans same)
  exact free

theorem handling_of_claim {claim : Claim} (quiet : (registry.claim claim).fault = none) :
    Handling registry (.claim claim) (registry.claim claim).registry := by
  unfold Registry.claim Registry.verdict at *
  cases offered : registry.validators claim.kind with
  | none =>
    refine .refused ?_ ?_ _
    · intro pin gets
      simp [Request.pin?, offered, Claim.verdict, Claim.refusal, Verdict.pin?] at gets
    · simp [Request.isDecided, offered]
  | some validator =>
    rw [offered] at quiet
    have decided (literal : claim.value.mentionsName = false) :
        (Request.claim claim).isDecided registry.validators = true := by
      simp [Request.isDecided, literal]
    have decidedOf {pin : Pin} (named : claim.value.literalPin? = some pin) :=
      decided (Value.literalPin?_eq_some_iff.mp named).1
    have gets {pin : Pin} (named : claim.value.literalPin? = some pin)
        (free : registry.pinMap.get? pin = none) := pin?_of_free offered named free
    have reason := claim.verdict_judged validator registry.pinMap
    generalize claim.verdict (some validator) registry.pinMap = judged at *
    cases reason with
    | stopped fault => cases quiet
    | unchecked name warning =>
      refine .noted ?_ ?_ warning
      · apply Option.eq_none_iff_forall_ne_some.mpr
        intro pin gets
        have literal := (Value.literalPin?_eq_some_iff.mp (literalPin?_of_pin? gets)).1
        simp [name] at literal
      · simp [Request.isDecided, offered, name]
    | misread literal read =>
      refine .refused ?_ (decided literal) _
      intro pin gets
      have readable := (Value.literalPin?_eq_some_iff.mp (literalPin?_of_pin? gets)).2
      simp [read] at readable
    | duplicate named taken =>
      refine .refused ?_ (decidedOf named) _
      intro pin gets
      cases Option.some.inj (named.symm.trans (literalPin?_of_pin? gets))
      simp [Dict.has, taken]
    | unsupported named free refused message =>
      refine .refused ?_ (decidedOf named) _
      intro pin asked
      rw [gets named free] at asked
      cases asked
    | granted named free grants info warnings =>
      exact .granted free (gets named free) (decidedOf named) warnings

theorem handling_of_request (quiet : (registry.handle request).fault = none) :
    Handling registry request (registry.handle request).registry := by
  cases request with
  | claim claim => exact handling_of_claim quiet
  | note warning => exact .noted rfl rfl warning
  | issue issue =>
    refine .refused ?_ rfl issue
    intro pin gets
    cases gets
  | stop fault => cases quiet

namespace Handling

variable {reached : Registry}

theorem validators (step : Handling registry request reached) :
    reached.validators = registry.validators := by
  cases step <;> rfl

/-- A request adds the pin that it would get if it came first. -/
theorem has_iff (step : Handling registry request reached) (pin : Pin) :
    reached.pinMap.has pin = true ↔
      registry.pinMap.has pin = true ∨ request.pin? registry.validators = some pin := by
  cases step with
  | granted free gets decided warnings =>
    simp only [Dict.has_iff_mem_keys, gets, addWarnings, pinMap_grant free, List.map_append,
      List.mem_append, Option.some.injEq]
    simp [eq_comm]
  | refused taken decided issue =>
    constructor
    · exact .inl
    · rintro (held | gets)
      · exact held
      · exact taken pin gets
  | noted nothing undecided warning =>
    rw [nothing]
    simp [addWarnings]

theorem decisions (step : Handling registry request reached) :
    reached.decisions =
      registry.decisions + if request.isDecided registry.validators then 1 else 0 := by
  cases step with
  | granted free gets decided warnings =>
    simp only [decided, ↓reduceIte, Registry.decisions, addWarnings, grant, List.length_append,
      List.length_singleton]
    omega
  | refused taken decided issue =>
    simp only [decided, ↓reduceIte, Registry.decisions, addError, List.length_append,
      List.length_singleton]
    omega
  | noted nothing undecided warning =>
    simp [undecided, Registry.decisions, addWarnings]

end Handling

/-- The pins held after a run are those held before it, and those that some request would get if it
came first. -/
theorem has_handleAll (quiet : (registry.handleAll requests).fault = none) (pin : Pin) :
    (registry.handleAll requests).registry.pinMap.has pin = true ↔
      registry.pinMap.has pin = true ∨
        ∃ request ∈ requests, request.pin? registry.validators = some pin := by
  induction requests generalizing registry with
  | nil => simp [handleAll]
  | cons request rest ih =>
    have first := handle_quiet quiet
    have step := handling_of_request first
    rw [handleAll_cons_quiet first] at quiet ⊢
    rw [ih quiet, step.has_iff, step.validators]
    simp [or_assoc]

/-- A run adds as many records and issues as it has decided requests. -/
theorem decisions_handleAll (quiet : (registry.handleAll requests).fault = none) :
    (registry.handleAll requests).registry.decisions =
      registry.decisions + requests.countP (Request.isDecided registry.validators) := by
  induction requests generalizing registry with
  | nil => rfl
  | cons request rest ih =>
    have first := handle_quiet quiet
    have step := handling_of_request first
    rw [handleAll_cons_quiet first] at quiet ⊢
    rw [ih quiet, step.decisions, step.validators, List.countP_cons]
    omega

theorem allocate_eq_ok_iff {events : List Event} {after : Registry} {allocation : Allocation} :
    registry.allocate events = .ok (after, allocation) ↔
      (registry.processAll events).fault = none ∧ (registry.processAll events).registry = after ∧
        after.result = allocation := by
  unfold allocate
  cases met : (registry.processAll events).fault with
  | some fault => simp [met]
  | none =>
    simp only [met, Except.ok.injEq, Prod.mk.injEq, true_and]
    constructor
    · rintro ⟨same, result⟩
      exact ⟨same, same ▸ result⟩
    · rintro ⟨same, result⟩
      exact ⟨same, same ▸ result⟩

end Registry

theorem Allocation.ok_iff_length {allocation : Allocation} :
    allocation.ok = true ↔ allocation.errors.length = 0 :=
  List.isEmpty_iff_length_eq_zero

end PinBudget
