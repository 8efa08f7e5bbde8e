import PinBudget.Proofs.Peripheral.Validation

/-!
Which pins a table grants for a role. Where roles play a part, a pin is granted exactly if one of
its entries can take the role, and the first such entry is taken; the user is asked to choose
exactly if there are several. A digital pin only has to be in the table, and the unit of a serial
line has a say in the advice only.
-/
namespace PinBudget.Validator

variable {validator : Validator} {pin : Pin} {line : Int} {role : Option String}
variable {entry : Capability} {others : List Capability}

/-- The entry can take the role: it has no role of its own, or the one that the table has for it.
Any entry will do where no role is asked for. -/
def Suits (validator : Validator) (role : Option String) (entry : Capability) : Prop :=
  ∀ asked ∈ role, entry.function = none ∨ entry.function = some (validator.canonicalRole asked)

instance (validator : Validator) (role : Option String) :
    DecidablePred (validator.Suits role) := fun entry =>
  match role with
  | none => isTrue nofun
  | some asked =>
    decidable_of_iff
      (entry.function = none ∨ entry.function = some (validator.canonicalRole asked))
      ⟨fun able _ same => Option.mem_some_iff.mp same ▸ able, fun suits => suits asked rfl⟩

def suited (validator : Validator) (pin : Pin) (role : Option String) : List Capability :=
  (validator.entries pin).filter fun entry => validator.Suits role entry

theorem matching_eq_suited (validator : Validator) (pin : Pin) (role : Option String) :
    validator.matching pin role = validator.suited pin role := by
  cases role with
  | none =>
    have every : ∀ entry ∈ validator.entries pin,
        decide (validator.Suits none entry) = true := fun _ _ => decide_eq_true nofun
    exact (List.filter_eq_self.mpr every).symm
  | some asked =>
    refine List.filter_congr fun entry _ => ?_
    rw [Bool.eq_iff_iff, decide_eq_true_iff]
    simp [matchesRole, Suits]

def Filled (validator : Validator) : Prop :=
  ∀ row ∈ validator.table, row.2 ≠ []

instance (validator : Validator) : Decidable validator.Filled :=
  List.decidableBAll _ _

theorem supports_iff (filled : validator.Filled) :
    validator.supports pin = true ↔ validator.entries pin ≠ [] := by
  unfold supports entries Dict.has
  cases found : Dict.get? validator.table pin with
  | none => simp
  | some own => simpa using filled (pin, own) (Dict.mem_of_get? found)

/-- The text asks the user to choose between the roles of a pin. -/
def AsksForUse (line : Int) (pin : Pin) (text : String) : Prop :=
  ∃ roles : String,
    text = s!"Line {line}: Multi-function pin {pin.name} - specify intended use " ++ s!"({roles})"

/-- A question ends in a closing parenthesis, and what it says of its line begins with an M. -/
theorem AsksForUse.shape {text : String} (asks : AsksForUse line pin text) :
    s!"Line {line}: M".toList <+: text.toList ∧ text.toList.getLast? = some ')' := by
  obtain ⟨roles, rfl⟩ := asks
  constructor
  · simp [toString_text]
  · simp only [String.toList_append, List.getLast?_append]
    rfl

theorem not_asksForUse_of_busAdvice {text : String}
    (advised : text ∈ validator.busAdvice line entry) : ¬AsksForUse line pin text := by
  intro asks
  obtain ⟨front, last⟩ := asks.shape
  simp only [busAdvice, List.mem_cons, List.not_mem_nil, or_false] at advised
  rcases advised with rfl | rfl
  · simp [toString_text] at front
  · rw [String.toList_append, List.getLast?_append] at last
    simp [toString_text] at last

theorem not_asksForUse_of_clockedAdvice {text : String}
    (advised : text ∈ clockedAdvice line entry) : ¬AsksForUse line pin text := by
  intro asks
  obtain ⟨front, -⟩ := asks.shape
  rcases List.mem_append.mp advised with role | rest
  · split at role
    · simp only [List.mem_singleton] at role
      simp [role, toString_text] at front
    · split at role
      · simp only [List.mem_singleton] at role
        simp [role, toString_text] at front
      · cases role
  · simp only [List.mem_singleton] at rest
    simp [rest, toString_text] at front

theorem not_asksForUse_of_lineAdvice {text : String}
    (advised : text ∈ validator.lineAdvice line entry) : ¬AsksForUse line pin text := by
  intro asks
  obtain ⟨front, -⟩ := asks.shape
  rcases List.mem_append.mp advised with early | defaults
  · rcases List.mem_append.mp early with role | rates
    · split at role
      · simp only [List.mem_cons, List.not_mem_nil, or_false] at role
        rcases role with rfl | rfl <;> simp [toString_text] at front
      · split at role
        · simp only [List.mem_singleton] at role
          simp [role, toString_text] at front
        · cases role
    · simp only [List.mem_singleton] at rates
      simp [rates, toString_text] at front
  · obtain ⟨own, _, told⟩ := List.mem_filterMap.mp defaults
    obtain ⟨pins, _, rfl⟩ := Option.map_eq_some_iff.mp told
    simp [toString_text] at front

/-- What else a user should know about a pin is never a question. -/
theorem not_asksForUse_of_advisory {text : String}
    (advised : text ∈ validator.advisories line entry) : ¬AsksForUse line pin text := by
  unfold advisories at advised
  split at advised
  · cases advised
  · cases advised
  · cases advised
  · exact not_asksForUse_of_busAdvice advised
  · exact not_asksForUse_of_clockedAdvice advised
  · exact not_asksForUse_of_lineAdvice advised

/-- A table with roles refuses a pin without a suited entry, and else takes the first one. -/
theorem validate_cases (roles : validator.kind ≠ .gpio) (pin : Pin) (line : Int)
    (role : Option String) :
    (validator.suited pin role = [] ∧
        ∃ reason, validator.validate pin line role = .refused reason) ∨
      ∃ entry others, validator.suited pin role = entry :: others ∧
        validator.validate pin line role = validator.grant pin line entry others := by
  have asked : validator.validate pin line role = validator.validateRole pin line role := by
    unfold validate
    split
    · exact absurd ‹_› roles
    all_goals rfl
  rw [asked, validateRole, matching_eq_suited]
  split
  · rename_i empty
    have none : validator.suited pin role = [] := by
      rw [suited, List.isEmpty_iff.mp empty, List.filter_nil]
    exact .inl ⟨none, _, rfl⟩
  · cases able : validator.suited pin role with
    | nil => exact .inl ⟨rfl, _, rfl⟩
    | cons entry others => exact .inr ⟨entry, others, rfl, rfl⟩

theorem suited_eq_nil_iff :
    validator.suited pin role = [] ↔
      ¬∃ entry ∈ validator.entries pin, validator.Suits role entry := by
  rw [suited, List.filter_eq_nil_iff]
  simp

/-- The pin is granted exactly if one of its entries suits, and the first of these is taken. -/
theorem found_validate (roles : validator.kind ≠ .gpio) (pin : Pin) (line : Int)
    (role : Option String) :
    Validation.entry? (validator.validate pin line role) = (validator.suited pin role).head? := by
  rcases validate_cases roles pin line role with ⟨none, reason, refused⟩ |
    ⟨entry, others, able, taken⟩
  · rw [none, refused]
    rfl
  · rw [able, taken]
    rfl

theorem ok_validate_iff (roles : validator.kind ≠ .gpio) :
    (validator.validate pin line role).ok = true ↔
      ∃ entry ∈ validator.entries pin, validator.Suits role entry := by
  rw [← Decidable.not_iff_not, ← suited_eq_nil_iff]
  rcases validate_cases roles pin line role with ⟨none, reason, refused⟩ |
    ⟨entry, others, able, taken⟩
  · simp [none, refused, Validation.ok]
  · simp [able, taken, Validation.ok, grant]

theorem asksForUse_iff (roles : validator.kind ≠ .gpio) :
    (∃ text ∈ (validator.validate pin line role).warnings, AsksForUse line pin text) ↔
      2 ≤ (validator.suited pin role).length := by
  rcases validate_cases roles pin line role with ⟨none, reason, refused⟩ |
    ⟨entry, others, able, taken⟩
  · simp [none, refused, Validation.warnings]
  · rw [able, taken]
    simp only [grant, Validation.warnings, List.mem_append]
    constructor
    · rintro ⟨text, choice | advised, asks⟩
      · cases others with
        | nil => cases choice
        | cons other rest => simp
      · exact absurd asks (not_asksForUse_of_advisory advised)
    · intro several
      cases others with
      | nil => simp at several
      | cons other rest => exact ⟨_, .inl (List.mem_singleton_self _), _, rfl⟩

theorem ok_validate_digital (filled : validator.Filled) (digital : validator.kind = .gpio) :
    (validator.validate pin line role).ok = validator.supports pin := by
  rw [Bool.eq_iff_iff, supports_iff filled, validate, digital]
  simp only [validateDigital]
  cases validator.entries pin <;> simp [Validation.ok]

theorem ok_validate_any (filled : validator.Filled) :
    (validator.validate pin line none).ok = validator.supports pin := by
  by_cases digital : validator.kind = .gpio
  · exact ok_validate_digital filled digital
  · rw [Bool.eq_iff_iff, ok_validate_iff digital, supports_iff filled]
    constructor
    · rintro ⟨entry, member, _⟩ empty
      rw [empty] at member
      cases member
    · intro some
      obtain ⟨entry, member⟩ := List.exists_mem_of_ne_nil _ some
      exact ⟨entry, member, nofun⟩

/-- The granted entry belongs to other units than the one that is asked for. -/
def OtherUnit (unit : Option Int) (validation : Validation) : Prop :=
  ∃ entry asked, validation.entry? = some entry ∧ unit = some asked ∧ asked ∉ entry.units

theorem warnOtherUnit_cases (pin : Pin) (line : Int) (unit : Option Int) (validation : Validation) :
    (¬OtherUnit unit validation ∧ warnOtherUnit pin line unit validation = validation) ∨
      ∃ entry info advice warning, OtherUnit unit validation ∧
        validation = .granted entry info advice ∧
        warnOtherUnit pin line unit validation = .granted entry info (advice ++ [warning]) := by
  cases validation with
  | refused reason => exact .inl ⟨by simp [OtherUnit, Validation.entry?], rfl⟩
  | granted entry info advice =>
    cases unit with
    | none => exact .inl ⟨by simp [OtherUnit], rfl⟩
    | some asked =>
      simp only [warnOtherUnit]
      split
      · rename_i own
        have own : asked ∈ entry.units := List.contains_iff_mem.mp own
        exact .inl ⟨by simp [OtherUnit, Validation.entry?, own], rfl⟩
      · rename_i foreign
        have foreign : asked ∉ entry.units := fun own => foreign (List.contains_iff_mem.mpr own)
        exact .inr ⟨entry, info, advice, _, ⟨entry, asked, rfl, rfl, foreign⟩, rfl, rfl⟩

/-- For every table whose pins have entries: asking for a pin always has an outcome. Where roles
play a part, the pin is granted exactly if the table has it and one of its entries suits, the first
such entry is taken, and the user is asked to choose exactly if several suit. A digital pin, or one
that is asked for without a role, only has to be in the table. The unit of a serial line changes
nothing but for one more warning, given exactly if the granted entry belongs to other units. -/
theorem granted_by_role (validator : Validator) (filled : validator.Filled) (pin : Pin) (line : Int)
    (role : Option String) :
    let outcome := validator.validate pin line role
    validator.validateAny pin line role = .ok outcome ∧
      (outcome.ok = false → outcome.entry? = none ∧ outcome.warnings = []) ∧
      (validator.kind ≠ .gpio →
        (outcome.ok = true ↔ validator.supports pin = true ∧
          (role = none ∨ ∃ entry ∈ validator.entries pin, validator.Suits role entry)) ∧
        outcome.entry? =
          (validator.entries pin).find? (fun entry => decide (validator.Suits role entry)) ∧
        ((∃ text ∈ outcome.warnings, AsksForUse line pin text) ↔
          2 ≤ (validator.entries pin).countP fun entry => decide (validator.Suits role entry))) ∧
      (validator.kind = .gpio ∨ role = none → outcome.ok = validator.supports pin) ∧
      (validator.kind = .uart → ∀ unit,
        let inUnit := validator.validateForUnit pin line role unit
        inUnit.ok = outcome.ok ∧ inUnit.entry? = outcome.entry? ∧ inUnit.info = outcome.info ∧
          ∃ extra, inUnit.warnings = outcome.warnings ++ extra ∧ extra.length ≤ 1 ∧
            (extra ≠ [] ↔ outcome.ok = true ∧ OtherUnit unit outcome)) := by
  intro outcome
  refine ⟨?_, ?_, ?_, ?_, ?_⟩
  · rw [validateAny, if_neg]
    simp only [Bool.and_eq_true, not_and, List.isEmpty_iff]
    exact fun found => (supports_iff filled).mp found.2
  · intro failed
    cases refused : outcome with
    | granted entry info warnings =>
      rw [refused] at failed
      cases failed
    | refused reason => exact ⟨rfl, rfl⟩
  · intro roles
    refine ⟨?_, ?_, ?_⟩
    · rw [ok_validate_iff roles, supports_iff filled]
      constructor
      · rintro ⟨entry, member, suits⟩
        exact ⟨List.ne_nil_of_mem member, .inr ⟨entry, member, suits⟩⟩
      · rintro ⟨some, rfl | found⟩
        · obtain ⟨entry, member⟩ := List.exists_mem_of_ne_nil _ some
          exact ⟨entry, member, nofun⟩
        · exact found
    · rw [found_validate roles, suited, List.head?_filter]
    · rw [asksForUse_iff roles, suited, List.countP_eq_length_filter]
  · rintro (digital | rfl)
    · exact ok_validate_digital filled digital
    · exact ok_validate_any filled
  · intro serial unit
    simp only [validateForUnit, serial]
    rcases warnOtherUnit_cases pin line unit outcome with
      ⟨own, same⟩ | ⟨entry, info, advice, warning, foreign, granted, warned⟩
    · rw [same]
      exact ⟨rfl, rfl, rfl, [], (List.append_nil _).symm, Nat.zero_le _, by simp [own]⟩
    · rw [warned]
      rw [granted] at foreign ⊢
      exact ⟨rfl, rfl, rfl, [warning], rfl, Nat.le_refl _, by simp [foreign, Validation.ok]⟩

/-- A serial pin with a transmitter, an entry without a role and a receiver. -/
private def sharedSerialPin : Validator where
  kind := .uart
  table :=
    [(⟨.a, 0, by decide⟩,
      [{ register := "T", function := some "TX", units := [1] },
        { register := "N", units := [3] },
        { register := "R", function := some "RX", units := [2] }])]

theorem granted_by_role_of_shared_pin :
    let pin : Pin := ⟨.a, 0, by decide⟩
    let outcome := sharedSerialPin.validate pin 4 (some "rxd")
    outcome.entry? = some { register := "N", units := [3] } ∧
      (∃ text ∈ outcome.warnings, AsksForUse 4 pin text) ∧
      ∃ warning, (sharedSerialPin.validateForUnit pin 4 (some "rxd") (some 2)).warnings =
        outcome.warnings ++ [warning] := by
  intro pin outcome
  obtain ⟨-, -, matched, -, unit⟩ :=
    granted_by_role sharedSerialPin (by decide) pin 4 (some "rxd")
  obtain ⟨-, first, choice⟩ := matched (by decide)
  have taken : outcome.entry? = some { register := "N", units := [3] } := first.trans (by decide)
  obtain ⟨-, -, -, extra, warned, single, given⟩ := unit rfl (some 2)
  have foreign : extra ≠ [] := given.mpr ⟨by decide, _, 2, taken, rfl, by decide⟩
  refine ⟨taken, choice.mpr (by decide), ?_⟩
  match extra, single, foreign with
  | [warning], _, _ => exact ⟨warning, warned⟩

end PinBudget.Validator
