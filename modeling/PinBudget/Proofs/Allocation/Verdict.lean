import PinBudget.Allocation.Claim
import PinBudget.Proofs.Peripheral.Validation

/-!
What a claim can come to. The pins held so far enter a verdict in one place only: a claim is judged
as if no pin were held, unless the very pin that it names is.
-/
namespace PinBudget

def Value.literalPin? (value : Value) : Option Pin :=
  if value.mentionsName then none else (Pin.ofValue value).toOption

theorem Value.literalPin?_eq_some_iff {value : Value} {pin : Pin} :
    value.literalPin? = some pin ↔ value.mentionsName = false ∧ Pin.ofValue value = .ok pin := by
  unfold literalPin?
  cases named : value.mentionsName <;> cases read : Pin.ofValue value <;>
    simp [Except.toOption]

namespace Claim

variable {claim : Claim} {validator : Validator} {offered : Option Validator}
variable {held : Dict Pin Record} {pin : Pin} {existing record : Record} {warnings : List String}

/-- How a claim of an offered kind can end, with the reason. The cases but the first are the checks
of a claim in their order. -/
inductive Judged (claim : Claim) (validator : Validator) (held : Dict Pin Record) :
    Verdict → Prop where
  | stopped (fault : Fault) : Judged claim validator held (.stopped fault)
  | unchecked (name : claim.value.mentionsName = true) (warning : String) :
      Judged claim validator held (.unchecked warning)
  | misread {error : PinError} (literal : claim.value.mentionsName = false)
      (read : Pin.ofValue claim.value = .error (.pin error)) :
      Judged claim validator held (claim.refusal error.issueKind error.message)
  | duplicate {pin : Pin} {existing : Record} (named : claim.value.literalPin? = some pin)
      (taken : held.get? pin = some existing) :
      Judged claim validator held (claim.duplicate pin existing)
  | unsupported {pin : Pin} (named : claim.value.literalPin? = some pin)
      (free : held.get? pin = none)
      (refused : (validator.validate pin claim.line claim.function).ok = false)
      (message : String) :
      Judged claim validator held
        (.refused ⟨.unsupportedPeripheralForPin, message, claim.sourceId, some claim.line⟩)
  | granted {pin : Pin} {entry : Capability} (named : claim.value.literalPin? = some pin)
      (free : held.get? pin = none)
      (grants : (validator.validate pin claim.line claim.function).Grants entry)
      (info : String) (warnings : List String) :
      Judged claim validator held (.accepted (claim.record validator pin entry info) warnings)

/-- A value that mentions a name ends in a warning, if it can be shown at all. -/
theorem judged_of_name (name : claim.value.mentionsName = true) :
    Judged claim validator held claim.uncheckedVerdict := by
  unfold uncheckedVerdict
  split
  · exact .stopped _
  · exact .unchecked name _

/-- A literal that names no pin is refused, or cannot be dealt with at all. -/
theorem judged_of_misread {fault : Fault} (literal : claim.value.mentionsName = false)
    (read : Pin.ofValue claim.value = .error fault) :
    Judged claim validator held (claim.misread fault) := by
  cases fault with
  | pin error => exact .misread literal read
  | _ => exact .stopped _

/-- A free pin is granted or refused as the validator says, unless the requested unit cannot be
shown. -/
theorem judged_of_free (named : claim.value.literalPin? = some pin) (free : held.get? pin = none) :
    Judged claim validator held (claim.validated validator pin) := by
  unfold validated
  split
  · rename_i entry info advice asked
    split
    · exact .stopped _
    · exact .granted named free (Validator.grants_validateForUnit.mp ⟨info, advice, asked⟩) info _
  · rename_i reason asked
    refine .unsupported named free ?_ _
    rw [← Validator.ok_validateForUnit validator pin claim.line claim.function claim.unit, asked]
    rfl

/-- Every verdict on a claim of an offered kind has its reason. -/
theorem verdict_judged (claim : Claim) (validator : Validator) (held : Dict Pin Record) :
    Judged claim validator held (claim.verdict (some validator) held) := by
  unfold verdict
  cases literal : claim.value.mentionsName with
  | true => exact judged_of_name literal
  | false =>
    cases read : Pin.ofValue claim.value with
    | error fault => exact judged_of_misread literal read
    | ok pin =>
      have named := Value.literalPin?_eq_some_iff.mpr ⟨literal, read⟩
      cases found : held.get? pin with
      | some existing => simpa [found] using Judged.duplicate named found
      | none => simpa [found] using judged_of_free named found

theorem verdict_of_held (claim : Claim) (named : claim.value.literalPin? = some pin)
    (taken : held.get? pin = some existing) :
    claim.verdict (some validator) held = claim.duplicate pin existing := by
  obtain ⟨literal, read⟩ := Value.literalPin?_eq_some_iff.mp named
  simp [verdict, literal, read, taken]

theorem taken_or_free (claim : Claim) (held : Dict Pin Record) :
    (∃ pin existing, claim.value.literalPin? = some pin ∧ held.get? pin = some existing) ∨
      ∀ pin, claim.value.literalPin? = some pin → held.get? pin = none := by
  cases named : claim.value.literalPin? with
  | none => exact .inr nofun
  | some pin =>
    cases found : held.get? pin with
    | some existing => exact .inl ⟨pin, existing, rfl, found⟩
    | none =>
      refine .inr ?_
      intro other same
      cases same
      exact found

/-- A claim on a free pin, or on no pin at all, is judged as if no pin were held. -/
theorem verdict_of_untaken
    (free : ∀ pin, claim.value.literalPin? = some pin → held.get? pin = none) :
    claim.verdict (some validator) held = claim.verdict (some validator) [] := by
  unfold verdict
  cases literal : claim.value.mentionsName with
  | true => rfl
  | false =>
    cases read : Pin.ofValue claim.value with
    | error fault => rfl
    | ok pin =>
      have found := free pin (Value.literalPin?_eq_some_iff.mpr ⟨literal, read⟩)
      simp [found]

theorem verdict_accepted (granted : claim.verdict offered held = .accepted record warnings) :
    claim.value.literalPin? = some record.pin ∧ held.get? record.pin = none ∧
      ∃ validator entry info, offered = some validator ∧
        (validator.validate record.pin claim.line claim.function).Grants entry ∧
        record = claim.record validator record.pin entry info := by
  cases offered with
  | none => cases granted
  | some validator =>
    have judged := verdict_judged claim validator held
    rw [granted] at judged
    cases judged with
    | granted named free grants info warnings =>
      exact ⟨named, free, validator, _, info, rfl, grants, rfl⟩

theorem advice_of_accepted
    (granted : claim.verdict (some validator) held = .accepted record warnings) :
    ∃ entry info advice,
      validator.validateForUnit record.pin claim.line claim.function claim.unit =
        .granted entry info advice ∧
      warnings = advice.map fun warning => s!"{claim.sourceId}: {warning}" := by
  obtain ⟨named, free, _⟩ := verdict_accepted granted
  obtain ⟨literal, read⟩ := Value.literalPin?_eq_some_iff.mp named
  simp only [verdict, literal, Bool.false_eq_true, ↓reduceIte, read, free, validated] at granted
  split at granted
  · rename_i entry info advice asked
    split at granted
    · cases granted
    · obtain ⟨_, passed⟩ := Verdict.accepted.inj granted
      exact ⟨entry, info, advice, asked, passed.symm⟩
  · cases granted

/-- Only a value that mentions a name is left unchecked, with a warning that shows it. -/
theorem unchecked_of_verdict {warning : String}
    (left : claim.verdict (some validator) held = .unchecked warning) :
    claim.value.mentionsName = true ∧
      ∃ shown, claim.value.outline = .ok shown ∧
        warning =
          s!"{claim.sourceId}:{claim.line}: {claim.kind.name} pin {shown} is not a literal - " ++
            "pin usage not checked" := by
  have judged := verdict_judged claim validator held
  rw [left] at judged
  cases judged with
  | unchecked name _ =>
    refine ⟨name, ?_⟩
    simp only [verdict, name, ↓reduceIte, uncheckedVerdict] at left
    split at left
    · cases left
    · rename_i shown outlined
      cases left
      exact ⟨shown, outlined, rfl⟩

theorem refused_of_verdict {issue : Issue}
    (refused : claim.verdict (some validator) held = .refused issue) :
    issue.sourceId = claim.sourceId ∧ issue.line = some claim.line ∧
      issue.kind ≠ .unknownPeripheralKind := by
  have judged := verdict_judged claim validator held
  generalize same : claim.verdict (some validator) held = verdict at judged refused
  subst refused
  cases judged with
  | duplicate named taken => exact ⟨rfl, rfl, nofun⟩
  | unsupported named free refused message => exact ⟨rfl, rfl, nofun⟩
  | @misread error literal read =>
    refine ⟨rfl, rfl, ?_⟩
    cases error <;> exact nofun

end Claim

end PinBudget
