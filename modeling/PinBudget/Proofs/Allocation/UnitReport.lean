import PinBudget.Proofs.Allocation.Outcomes
import PinBudget.Proofs.Outcome
import PinBudget.Proofs.Source.Name

/-!
What is said about a unit that is no number. Where the unit is looked at, it is said once: a serial
line always looks at its unit, an SPI construction only where the pins are to follow from it.
-/
namespace PinBudget

/-- An integer, or a text of decimal digits with blanks around them. -/
def Value.IsNumber : Value → Prop
  | int _ => True
  | str text => Text.trim text.toList ≠ [] ∧ ∀ c ∈ Text.trim text.toList, Text.isDecimal c = true
  | _ => False

theorem Numeral.isDecimal_of_ofDigitSigns {text : List Char} {number : Int}
    (read : ofDigitSigns text = .ok number) :
    ∀ c ∈ text, Text.isDecimal c = true ∨ Text.isBlank c = true := by
  have blank {c : Char} (margin : isMargin c = true) : Text.isBlank c = true :=
    (Bool.and_eq_true_iff.mp margin).1
  have parted : text = text.takeWhile isMargin ++
      ((text.dropWhile isMargin).takeWhile Text.isDecimal ++
        (text.dropWhile isMargin).dropWhile Text.isDecimal) := by
    rw [List.takeWhile_append_dropWhile, List.takeWhile_append_dropWhile]
  unfold ofDigitSigns at read
  simp only [List.span_eq_takeWhile_dropWhile] at read
  split at read
  · cases read
  · split at read
    · rename_i complete
      have margins := List.all_eq_true.mp (Bool.and_eq_true_iff.mp complete).2
      intro c member
      rw [parted] at member
      rcases List.mem_append.mp member with before | behind
      · exact .inr (blank (List.all_eq_true.mp List.all_takeWhile c before))
      · rcases List.mem_append.mp behind with digit | after
        · exact .inl (List.all_eq_true.mp List.all_takeWhile c digit)
        · exact .inr (blank (margins c after))
    · cases read

/-- Only integers and texts of decimal digits stand for a number. -/
theorem Value.isNumber_of_asInt? {value : Value} {number : Int}
    (read : value.asInt? = .ok (some number)) : value.IsNumber := by
  cases value with
  | int own => trivial
  | str text =>
    unfold asInt? at read
    simp only at read
    split at read
    · rename_i signs
      obtain ⟨shown, signs⟩ := Bool.and_eq_true_iff.mp signs
      obtain ⟨own, digits, _⟩ := map_eq_ok.mp read
      refine ⟨by simpa using shown, ?_⟩
      intro c member
      have inside : c ∈ text.toList := by
        obtain ⟨before, behind, _, _, split⟩ := Text.exists_trim text.toList
        rw [split]
        exact List.mem_append_left _ (List.mem_append_right _ member)
      rcases Numeral.isDecimal_of_ofDigitSigns digits c inside with decimal | blank
      · exact decimal
      · rw [Text.isBlank_of_isDigitSign (List.all_eq_true.mp signs c member)] at blank
        cases blank
    · cases read
  | _ => cases read

/-- A number begins with a digit or a sign, and not with a space. -/
theorem exists_first_ne_space (number : Int) :
    ∃ first rest, number.repr.toList = first :: rest ∧ first ≠ ' ' := by
  cases number with
  | ofNat n =>
    have digits : (Int.ofNat n).repr.toList = Nat.toDigits 10 n := String.toList_ofList
    have some : Nat.toDigits 10 n ≠ [] := Nat.toDigits_ne_nil
    obtain ⟨first, rest, split⟩ := List.exists_cons_of_ne_nil some
    have own : first ∈ Nat.toDigits 10 n := by
      rw [split]
      exact List.mem_cons_self ..
    refine ⟨first, rest, digits.trans split, ?_⟩
    rintro rfl
    cases Nat.isDigit_of_mem_toDigits (by decide) (by decide) own
  | negSucc n => exact ⟨'-', (n + 1).repr.toList, String.toList_append, by decide⟩

namespace Event

variable {event : Event} {role : PinRole} {outcomes : List Verdict} {judged : Verdict}

/-- A warning that the unit of the event is not a literal. -/
def IsUnitWarning (event : Event) (text : String) : Prop :=
  ∃ name, text = event.unitWarning name

/-- Advice has a space where the warning has the line. -/
theorem advice_not_unitWarning (event : Event) (words : String) :
    ¬event.IsUnitWarning s!"{event.sourceId}: {words}" := by
  rintro ⟨name, same⟩
  have texts := congrArg String.toList same
  obtain ⟨first, rest, line, shown⟩ := exists_first_ne_space event.line
  simp [unitWarning, toString_text, line] at texts
  exact shown texts.1.symm

theorem missingPin_not_unitWarning {warning : String} {label : Option String}
    (noted : event.missingPin label = .note warning) : ¬event.IsUnitWarning warning := by
  rintro ⟨name, same⟩
  cases noted
  have texts := congrArg String.toList same
  simp [unitWarning, toString_text] at texts

theorem unread_not_unitWarning (event : Event) (shown : String) :
    ¬event.IsUnitWarning
      (s!"{event.sourceId}:{event.line}: {event.kind.name} pin {shown} is not a literal - " ++
        "pin usage not checked") := by
  rintro ⟨name, same⟩
  have texts := congrArg String.toList same
  simp [unitWarning, toString_text] at texts

/-- Neither a unit that is no number nor a kind that is not on offer is mentioned. -/
def Unmentioned (event : Event) (warnings : List String) (issues : List Issue) : Prop :=
  (∀ text ∈ warnings, ¬event.IsUnitWarning text) ∧
    ∀ issue ∈ issues, issue.kind ≠ .unknownPeripheralKind

theorem RoleOutcome.unmentioned (settled : event.RoleOutcome role judged) :
    event.Unmentioned judged.warnings judged.issue?.toList := by
  cases settled with
  | granted _ _ _ _ _ _ advised =>
    refine ⟨?_, nofun⟩
    intro text member
    obtain ⟨words, rfl, _⟩ := advised text member
    exact event.advice_not_unitWarning words
  | refused kind _ _ => exact ⟨nofun, List.forall_mem_singleton.mpr kind⟩
  | missing _ _ noted =>
    exact ⟨List.forall_mem_singleton.mpr (missingPin_not_unitWarning noted), nofun⟩
  | unread _ _ => exact ⟨List.forall_mem_singleton.mpr (event.unread_not_unitWarning _), nofun⟩

theorem unmentioned_of_roles {roles : List PinRole}
    (each : List.Forall₂ event.RoleOutcome roles outcomes) :
    event.Unmentioned (outcomes.flatMap Verdict.warnings) (outcomes.filterMap Verdict.issue?) := by
  rw [List.filterMap_eq_flatMap_toList]
  induction each with
  | nil => exact ⟨nofun, nofun⟩
  | cons settled _ ih =>
    obtain ⟨warnings, issues⟩ := settled.unmentioned
    exact ⟨List.forall_mem_append.mpr ⟨warnings, ih.1⟩, List.forall_mem_append.mpr ⟨issues, ih.2⟩⟩

/-- A unit that is no number is mentioned first, and not again: by a warning with the name that
stands for it, or else by an issue with the place of the event. -/
def MentionedOnce (event : Event) (unit : Value) (warnings : List String) (issues : List Issue) :
    Prop :=
  (∀ name, unit = .unresolved name →
    ∃ others, warnings = event.unitWarning name :: others ∧ event.Unmentioned others issues) ∧
  ((∀ name, unit ≠ .unresolved name) →
    ∃ issue others, issues = issue :: others ∧ issue.kind = .unknownPeripheralKind ∧
      issue.sourceId = event.sourceId ∧ issue.line = some event.line ∧
      event.Unmentioned warnings others)

variable {value : Value}

theorem UnitReport.mentionedOnce (about : event.UnitReport judged)
    (given : event.unitArgument = .ok value)
    (rest : event.Unmentioned (outcomes.flatMap Verdict.warnings)
      (outcomes.filterMap Verdict.issue?)) :
    event.MentionedOnce value ((judged :: outcomes).flatMap Verdict.warnings)
      ((judged :: outcomes).filterMap Verdict.issue?) := by
  cases about with
  | @unchecked name unresolved =>
    cases given.symm.trans unresolved
    refine ⟨?_, fun literal => absurd rfl (literal name)⟩
    rintro _ ⟨⟩
    exact ⟨_, rfl, rest⟩
  | @invalid issue literal kind source line =>
    refine ⟨?_, fun _ => ⟨issue, _, rfl, kind, source, line, rest⟩⟩
    rintro name rfl
    exact absurd given (literal name)

/-- A serial line with a unit takes its default pins or names its pins. -/
theorem takesDefaults_or_namesLine (uart : event.kind = .uart)
    (given : event.unitArgument = .ok value) (present : value.isNil = false) :
    event.TakesDefaults ∨ event.NamesLine := by
  cases txd : (event.namedValue "txd_pin").isNil with
  | false => exact .inr ⟨uart, .inl txd⟩
  | true =>
    cases rxd : (event.namedValue "rxd_pin").isNil with
    | false => exact .inr ⟨uart, .inr rxd⟩
    | true =>
      refine .inl (.inr ⟨uart, txd, rxd, .inr ?_⟩)
      intro absent
      cases given.symm.trans absent
      cases present

theorem HasUnit.isNumber {unit : Int} (number : event.HasUnit unit)
    (given : event.unitArgument = .ok value) (present : value.isNil = false) : value.IsNumber := by
  rcases number with ⟨absent, _⟩ | read
  · cases given.symm.trans absent
    cases present
  · rw [Event.unit, given] at read
    exact Value.isNumber_of_asInt? read

end Event

namespace Registry

variable {registry : Registry} {event : Event} {validator : Validator} {value : Value}

/-- What an event says about a unit that is given and is no number. A serial line, and an SPI
construction that leaves its pins to the unit, mention it once; an SPI construction with pins of its
own never does. -/
theorem unit_mentioned_where_used (offered : registry.validators event.kind = some validator)
    (quiet : (registry.process event).fault = none) (given : event.unitArgument = .ok value)
    (present : value.isNil = false) (other : ¬value.IsNumber) :
    ∃ warnings issues,
      (registry.process event).registry.warnings = registry.warnings ++ warnings ∧
      (registry.process event).registry.errors = registry.errors ++ issues ∧
      (event.kind = .uart ∨ event.usesSpiDefaults = true →
        event.MentionedOnce value warnings issues) ∧
      (event.kind = .spi → event.usesSpiDefaults = false → event.Unmentioned warnings issues) := by
  obtain ⟨outcomes, added, path⟩ := exists_outcomes offered quiet
  refine ⟨_, _, added.warnings, added.errors, ?_, ?_⟩
  · intro used
    have due : event.TakesDefaults ∨ event.NamesLine := by
      rcases used with uart | defaults
      · exact Event.takesDefaults_or_namesLine uart given present
      · exact .inl (.inl defaults)
    cases path with
    | unitOnly _ _ about => exact about.mentionedOnce given ⟨nofun, nofun⟩
    | unitFirst _ _ about each => exact about.mentionedOnce given (Event.unmentioned_of_roles each)
    | roles _ counted each =>
      obtain ⟨unit, number⟩ := counted due
      exact absurd (number.isNumber given present) other
  · intro spi named
    cases path with
    | roles _ _ each => exact Event.unmentioned_of_roles each
    | unitOnly defaults =>
      rcases defaults with defaults | ⟨uart, _⟩
      · cases named.symm.trans defaults
      · cases spi.symm.trans uart
    | unitFirst names => cases spi.symm.trans names.1

private theorem fast_not_isNumber : ¬(Value.str "fast").IsNumber := by
  rintro ⟨_, digits⟩
  have letter := digits 'f' (by decide)
  have other : Text.isDecimal 'f' = false := by decide +kernel
  cases other.symm.trans letter

/-- A serial line with a transmit pin and a text for its unit. -/
private def misnamedUnit : Event :=
  { kind := .uart, sourceId := "main", line := 2,
    named := [("txd_pin", .int 9), ("unit", .str "fast")] }

theorem unit_mentioned_where_used_by_line :
    let after := (fresh.process misnamedUnit).registry
    misnamedUnit.MentionedOnce (.str "fast") after.warnings after.errors := by
  have quiet : (fresh.process misnamedUnit).fault = none := by decide +kernel
  have offered : fresh.validators misnamedUnit.kind = some (Validator.standard .uart) := rfl
  obtain ⟨warnings, issues, warned, added, once, _⟩ :=
    unit_mentioned_where_used offered quiet rfl rfl fast_not_isNumber
  intro after
  rw [warned, added]
  exact once (.inl rfl)

/-- The unit of an SPI construction with a clock pin passes, be it a text or a name. -/
theorem unit_of_explicit_pins_unmentioned :
    let event (unit : Value) : Event :=
      { kind := .spi, sourceId := "e.rb", line := 1, positional := [.str "B14"],
        named := [("unit", unit)] }
    (event (.str "fast")).unitArgument = .ok (.str "fast") ∧ ¬(Value.str "fast").IsNumber ∧
      (fresh.process (event (.str "fast"))).fault = none ∧
      (fresh.process (event (.str "fast"))).registry.errors = [] ∧
      (event (.unresolved "u")).unitArgument = .ok (.unresolved "u") ∧
      (fresh.process (event (.unresolved "u"))).fault = none ∧
      (event (.unresolved "u")).unitWarning "u" ∉
        (fresh.process (event (.unresolved "u"))).registry.warnings := by
  intro event
  refine ⟨rfl, fast_not_isNumber, ?_, ?_, rfl, ?_, ?_⟩
  all_goals decide +kernel

end Registry

end PinBudget
