import PinBudget.Proofs.Dict
import PinBudget.Peripheral.Validator

/-!
What a granted pin can do: the entry that a validator grants is one of the pin's own, and where
roles play a part it can take the requested role.
-/
namespace PinBudget

/-- The outcome grants this entry. -/
def Validation.Grants (validation : Validation) (entry : Capability) : Prop :=
  ∃ info warnings, validation = .granted entry info warnings

theorem toString_text (text : String) : toString text = text :=
  rfl

theorem Validation.ok_iff_grants {validation : Validation} :
    validation.ok = true ↔ ∃ entry, validation.Grants entry := by
  cases validation with
  | granted entry info warnings => exact ⟨fun _ => ⟨entry, info, warnings, rfl⟩, fun _ => rfl⟩
  | refused reason =>
    constructor
    · intro impossible
      cases impossible
    · rintro ⟨entry, info, warnings, impossible⟩
      cases impossible

namespace Validator

variable {validator : Validator} {pin : Pin} {line : Int} {role : Option String}
variable {unit : Option Int} {entry : Capability}

theorem grants_warnOtherUnit {validation : Validation} :
    (warnOtherUnit pin line unit validation).Grants entry ↔ validation.Grants entry := by
  cases validation with
  | refused reason => rfl
  | granted own info warnings =>
    cases unit with
    | none => rfl
    | some asked =>
      simp only [warnOtherUnit]
      split
      · rfl
      · simp [Validation.Grants]

theorem grants_validateForUnit :
    (validator.validateForUnit pin line role unit).Grants entry ↔
      (validator.validate pin line role).Grants entry := by
  cases same : validator.kind <;> simp only [validateForUnit, same, grants_warnOtherUnit]

theorem ok_validateForUnit (validator : Validator) (pin : Pin) (line : Int) (role : Option String)
    (unit : Option Int) :
    (validator.validateForUnit pin line role unit).ok = (validator.validate pin line role).ok := by
  apply Bool.eq_iff_iff.mpr
  simp only [Validation.ok_iff_grants, grants_validateForUnit]

theorem mem_entries_of_mem_matching (able : entry ∈ validator.matching pin role) :
    entry ∈ validator.entries pin := by
  cases role with
  | none => exact able
  | some asked => exact (List.mem_filter.mp able).1

/-- An entry that can take a role has that role, or none at all. -/
theorem function_of_mem_matching {asked : String}
    (able : entry ∈ validator.matching pin (some asked)) :
    entry.function = none ∨ entry.function = some (validator.canonicalRole asked) := by
  have fits := (List.mem_filter.mp able).2
  simpa [matchesRole] using fits

theorem mem_matching_of_validateRole
    (granted : (validator.validateRole pin line role).Grants entry) :
    entry ∈ validator.matching pin role := by
  obtain ⟨info, warnings, granted⟩ := granted
  unfold validateRole at granted
  split at granted
  · cases granted
  · split at granted
    · cases granted
    · rename_i first others found
      cases granted
      simp [found]

theorem mem_entries_of_validateDigital
    (granted : (validator.validateDigital pin line).Grants entry) :
    entry ∈ validator.entries pin := by
  obtain ⟨info, warnings, granted⟩ := granted
  unfold validateDigital at granted
  split at granted
  · rename_i first others found
    cases granted
    simp [found]
  · cases granted

/-- The granted entry belongs to the pin, and for every kind with roles it can take the role. -/
theorem mem_of_validate (granted : (validator.validate pin line role).Grants entry) :
    entry ∈ validator.entries pin ∧
      (validator.kind ≠ .gpio → entry ∈ validator.matching pin role) := by
  unfold validate at granted
  split at granted
  · rename_i digital
    exact ⟨mem_entries_of_validateDigital granted, fun other => absurd digital other⟩
  all_goals
    have able := mem_matching_of_validateRole granted
    exact ⟨mem_entries_of_mem_matching able, fun _ => able⟩

/-- The board's tables name roles by their canonical words. -/
theorem canonicalRole_standard (kind : Kind) :
    ∀ row ∈ (standard kind).table, ∀ entry ∈ row.2, ∀ role ∈ entry.function,
      (standard kind).canonicalRole role = role := by
  cases kind <;> decide

theorem canonicalRole_of_mem_entries {kind : Kind} {function : String}
    (member : entry ∈ (standard kind).entries pin) (named : entry.function = some function) :
    (standard kind).canonicalRole function = function := by
  unfold entries at member
  cases found : Dict.get? (standard kind).table pin with
  | none => simp [found] at member
  | some own =>
    simp only [found, Option.getD_some] at member
    exact canonicalRole_standard kind (pin, own) (Dict.mem_of_get? found) entry member function
      named

/-- The text begins with the line that it is about. -/
def Cites (line : Int) (text : String) : Prop :=
  s!"Line {line}".toList <+: text.toList

theorem cites_busAdvice (line : Int) (entry : Capability) :
    ∀ text ∈ validator.busAdvice line entry, Cites line text := by
  simp [busAdvice, Cites]

theorem cites_clockedAdvice (line : Int) (entry : Capability) :
    ∀ text ∈ clockedAdvice line entry, Cites line text := by
  unfold clockedAdvice
  rw [List.forall_mem_append]
  constructor
  · split
    · simp [Cites]
    · split <;> simp [Cites]
  · simp [Cites]

theorem cites_lineAdvice (line : Int) (entry : Capability) :
    ∀ text ∈ validator.lineAdvice line entry, Cites line text := by
  unfold lineAdvice
  simp only [List.forall_mem_append]
  refine ⟨⟨?_, ?_⟩, ?_⟩
  · split
    · simp [Cites]
    · split <;> simp [Cites]
  · simp [Cites]
  · intro text member
    obtain ⟨own, _, told⟩ := List.mem_filterMap.mp member
    obtain ⟨pins, _, rfl⟩ := Option.map_eq_some_iff.mp told
    simp [Cites]

theorem cites_advisories (validator : Validator) (line : Int) (entry : Capability) :
    ∀ text ∈ validator.advisories line entry, Cites line text := by
  unfold advisories
  split
  · exact nofun
  · exact nofun
  · exact nofun
  · exact cites_busAdvice line entry
  · exact cites_clockedAdvice line entry
  · exact cites_lineAdvice line entry

/-- All advice on a granted pin begins with the line that asks for it. -/
theorem cites_validate {info : String} {advice : List String}
    (granted : validator.validate pin line role = .granted entry info advice) :
    ∀ text ∈ advice, Cites line text := by
  have roles (asked : validator.validateRole pin line role = .granted entry info advice) :
      ∀ text ∈ advice, Cites line text := by
    unfold validateRole at asked
    split at asked
    · cases asked
    · split at asked
      · cases asked
      · unfold grant at asked
        cases asked
        rw [List.forall_mem_append]
        refine ⟨?_, cites_advisories validator line _⟩
        split
        · exact nofun
        · simp [Cites]
  unfold validate at granted
  split at granted
  · unfold validateDigital at granted
    split at granted
    · cases granted
      exact nofun
    · cases granted
  all_goals exact roles granted

theorem cites_warnOtherUnit {validation : Validation} {info : String} {advice : List String}
    (cited : ∀ text ∈ validation.warnings, Cites line text)
    (granted : warnOtherUnit pin line unit validation = .granted entry info advice) :
    ∀ text ∈ advice, Cites line text := by
  cases validation with
  | refused reason => cases granted
  | granted own words earlier =>
    cases unit with
    | none =>
      cases granted
      exact cited
    | some asked =>
      simp only [warnOtherUnit] at granted
      split at granted
      · cases granted
        exact cited
      · cases granted
        exact List.forall_mem_append.mpr ⟨cited, by simp [Cites]⟩

theorem cites_validateForUnit {info : String} {advice : List String}
    (granted : validator.validateForUnit pin line role unit = .granted entry info advice) :
    ∀ text ∈ advice, Cites line text := by
  have plain : ∀ text ∈ (validator.validate pin line role).warnings, Cites line text := by
    cases asked : validator.validate pin line role with
    | refused reason => exact nofun
    | granted own words earlier => exact cites_validate asked
  unfold validateForUnit at granted
  split at granted
  · exact cites_warnOtherUnit plain granted
  all_goals
    rw [granted] at plain
    exact plain

end Validator

end PinBudget
