import Mathlib.Data.List.Forall2
import PinBudget.Proofs.Allocation.Completion

/-!
What an event leaves behind, role by role. Each role of a constructor ends in one outcome: a record,
an issue, or the warning that its pin is not checked. What is wrong with the unit comes before the
roles, or in their place where the pins were to follow from the unit.
-/
namespace PinBudget

theorem Value.isNil_iff {value : Value} : value.isNil = true ↔ value = .nil := by
  cases value <;> simp [isNil]

namespace Verdict

def record? : Verdict → Option Record
  | accepted record _ => some record
  | refused _ | unchecked _ | stopped _ => none

def issue? : Verdict → Option Issue
  | refused issue => some issue
  | accepted .. | unchecked _ | stopped _ => none

/-- The advice on a granted pin, or the warning that nothing can be said. -/
def warnings : Verdict → List String
  | accepted _ advice => advice
  | unchecked warning => [warning]
  | refused _ | stopped _ => []

end Verdict

namespace Registry

variable {registry old middle new : Registry} {request : Request} {requests : List Request}

/-- What a request comes to in the present state. -/
def outcome (registry : Registry) : Request → Verdict
  | .claim claim => registry.verdict claim
  | .note warning => .unchecked warning
  | .issue issue => .refused issue
  | .stop fault => .stopped fault

theorem handle_eq_settle (registry : Registry) (request : Request) :
    registry.handle request = registry.settle (registry.outcome request) := by
  cases request <;> rfl

/-- The later registry has the records, the issues and the warnings of these outcomes more, in their
order. -/
structure Adds (old new : Registry) (outcomes : List Verdict) : Prop where
  accepted : new.accepted = old.accepted ++ outcomes.filterMap Verdict.record?
  errors : new.errors = old.errors ++ outcomes.filterMap Verdict.issue?
  warnings : new.warnings = old.warnings ++ outcomes.flatMap Verdict.warnings

theorem Adds.nil (registry : Registry) : registry.Adds registry [] :=
  ⟨(List.append_nil _).symm, (List.append_nil _).symm, (List.append_nil _).symm⟩

theorem Adds.append {first second : List Verdict} (front : old.Adds middle first)
    (back : middle.Adds new second) : old.Adds new (first ++ second) where
  accepted := by rw [back.accepted, front.accepted, List.filterMap_append, List.append_assoc]
  errors := by rw [back.errors, front.errors, List.filterMap_append, List.append_assoc]
  warnings := by rw [back.warnings, front.warnings, List.flatMap_append, List.append_assoc]

theorem adds_settle (registry : Registry) (judged : Verdict) :
    registry.Adds (registry.settle judged).registry [judged] := by
  cases judged <;>
    constructor <;>
    simp [settle, grant, addWarnings, addError, Verdict.record?, Verdict.issue?, Verdict.warnings]

/-- A state on the way from one state of a registry to another. -/
structure Between (old new between : Registry) : Prop where
  since : old.Extends between
  upTo : between.Extends new
  validators : between.validators = old.validators

/-- On the way from one state of a registry to another a request comes to this outcome, which is no
fault. -/
def ComesTo (old new : Registry) (request : Request) (judged : Verdict) : Prop :=
  ∃ between, old.Between new between ∧ between.outcome request = judged ∧
    ∀ fault, judged ≠ .stopped fault

theorem ComesTo.earlier {judged : Verdict} (came : middle.ComesTo new request judged)
    (grown : old.Extends middle) (kept : middle.validators = old.validators) :
    old.ComesTo new request judged := by
  obtain ⟨between, ⟨since, upTo, same⟩, reached⟩ := came
  exact ⟨between, ⟨grown.trans since, upTo, same.trans kept⟩, reached⟩

theorem comesTo_of_quiet (quiet : (registry.handle request).fault = none)
    (grown : registry.Extends new) :
    registry.ComesTo new request (registry.outcome request) := by
  refine ⟨registry, ⟨Extends.refl _, grown, rfl⟩, rfl, ?_⟩
  intro fault stopped
  rw [handle_eq_settle, stopped] at quiet
  cases quiet

theorem adds_handleAll (quiet : (registry.handleAll requests).fault = none) :
    ∃ outcomes, registry.Adds (registry.handleAll requests).registry outcomes ∧
      List.Forall₂ (registry.ComesTo (registry.handleAll requests).registry) requests outcomes := by
  induction requests generalizing registry with
  | nil => exact ⟨[], .nil registry, .nil⟩
  | cons request rest ih =>
    have first := handle_quiet quiet
    have kept : (registry.handle request).registry.validators = registry.validators :=
      (stable_validators _).handle rfl request
    have grown : registry.Extends (registry.handle request).registry :=
      (stable_extends _).handle (Extends.refl _) request
    have further : registry.Extends (registry.handleAll (request :: rest)).registry :=
      (stable_extends _).handleAll _ (Extends.refl _)
    rw [handleAll_cons_quiet first] at quiet further ⊢
    obtain ⟨outcomes, added, each⟩ := ih quiet
    have own : registry.Adds (registry.handle request).registry [registry.outcome request] := by
      rw [handle_eq_settle]
      exact adds_settle registry _
    refine ⟨_, own.append added, .cons (comesTo_of_quiet first further) ?_⟩
    exact each.imp fun _ _ came => came.earlier grown kept

theorem stop_not_mem (quiet : (registry.handleAll requests).fault = none) (fault : Fault) :
    .stop fault ∉ requests := by
  induction requests generalizing registry with
  | nil => exact nofun
  | cons request rest ih =>
    have first := handle_quiet quiet
    rw [handleAll_cons_quiet first] at quiet
    intro member
    rcases List.mem_cons.mp member with rfl | later
    · cases first
    · exact ih quiet later

end Registry

namespace Event

variable {event : Event} {validators : Validators} {old new : Registry}

/-- The pin of a constructor with one pin. -/
def onlyPin : PinRole := ⟨none, "pin", some 0⟩

/-- Whether a UART is constructed with a single pin: it names neither of its pins and begins with
something else than a unit, and no unit is named. -/
def takesOnePin (event : Event) : Bool :=
  event.kind == .uart && (event.namedValue "txd_pin").isNil && (event.namedValue "rxd_pin").isNil &&
    !event.positional.isEmpty && match event.unitArgument with
      | .ok value => value.isNil
      | .error _ => false

/-- The roles whose pins an event takes, in order. -/
def roles (event : Event) : List PinRole :=
  if event.takesOnePin then [onlyPin] else event.kind.pinRoles

/-- The value that the event gives for the pin of a role; nil where it gives none. -/
def pinOf (event : Event) (role : PinRole) : Value :=
  event.argument role.position (some role.name)

/-- The event gives a pin for a role: nil counts as none, but a UART with a single pin takes it as
it comes. -/
def Gives (event : Event) (role : PinRole) : Prop :=
  event.takesOnePin = true ∨ (event.pinOf role).isNil = false

def NamesLine (event : Event) : Prop :=
  event.kind = .uart ∧
    ((event.namedValue "txd_pin").isNil = false ∨ (event.namedValue "rxd_pin").isNil = false)

/-- The unit is given, and is no number. -/
def UnitUnread (event : Event) : Prop :=
  ∃ value, event.unitArgument = .ok value ∧ value.isNil = false ∧ value.asInt? = .ok none

/-- The number of the unit, which is 1 where no unit is given. -/
def HasUnit (event : Event) (unit : Int) : Prop :=
  event.unitArgument = .ok .nil ∧ unit = 1 ∨ event.unit = .ok (some unit)

/-- The unit has a number, but no default pins. -/
def UnitUnknown (validators : Validators) (event : Event) : Prop :=
  ∃ unit, event.HasUnit unit ∧
    match event.kind with
    | .uart => ∀ validator ∈ validators .uart, validator.uartDefaults? unit = none
    | _ => SpiPins.ofUnit? unit = none

/-- The default pins do not follow from the unit. -/
def UnitUnusable (validators : Validators) (event : Event) : Prop :=
  event.UnitUnread ∨ event.UnitUnknown validators

def unitWarning (event : Event) (name : String) : String :=
  s!"{event.sourceId}:{event.line}: {event.kind.name}.new unit {name} is not a literal" ++
    " - unit not checked"

/-- What is said about a unit that cannot be used. -/
inductive UnitReport (event : Event) : Verdict → Prop where
  | unchecked {name : String} (given : event.unitArgument = .ok (.unresolved name)) :
      UnitReport event (.unchecked (event.unitWarning name))
  | invalid {issue : Issue} (literal : ∀ name, event.unitArgument ≠ .ok (.unresolved name))
      (kind : issue.kind = .unknownPeripheralKind) (source : issue.sourceId = event.sourceId)
      (line : issue.line = some event.line) : UnitReport event (.refused issue)

/-- How the pin of a role can end. Whatever is recorded carries the kind and the place of the
event. -/
inductive RoleOutcome (event : Event) (role : PinRole) : Verdict → Prop where
  | granted {record : Record} {advice : List String}
      (pin : event.TakesDefaults ∨ (event.pinOf role).literalPin? = some record.pin)
      (kind : record.kind = event.kind) (source : record.sourceId = event.sourceId)
      (line : record.line = event.line) (holder : record.holder = event.holder)
      (function : ∀ name, role.role = some name → record.function = some name)
      (advised : ∀ text ∈ advice, ∃ words, text = s!"{event.sourceId}: {words}" ∧
        Validator.Cites event.line words) :
      RoleOutcome event role (.accepted record advice)
  | refused {issue : Issue} (kind : issue.kind ≠ .unknownPeripheralKind)
      (source : issue.sourceId = event.sourceId) (line : issue.line = some event.line) :
      RoleOutcome event role (.refused issue)
  | missing {warning : String} (given : ¬event.TakesDefaults)
      (absent : (event.pinOf role).isNil = true)
      (noted : event.missingPin role.role = .note warning) :
      RoleOutcome event role (.unchecked warning)
  | unread {shown : String} (name : (event.pinOf role).mentionsName = true)
      (outlined : (event.pinOf role).outline = .ok shown) :
      RoleOutcome event role
        (.unchecked
          (s!"{event.sourceId}:{event.line}: {event.kind.name} pin {shown} is not a literal - " ++
            "pin usage not checked"))

/-- A list with one item for each role of an event, in order. Where the default pins do not follow
from the unit, there is one item about the unit instead; where a UART names its pins and its unit is
no number, there is one about the unit in front. -/
inductive RoleByRole (validators : Validators) (event : Event) {α : Type} (unit : α → Prop)
    (role : PinRole → α → Prop) : List α → Prop where
  | unitOnly {report : α} (defaults : event.TakesDefaults)
      (unusable : event.UnitUnusable validators) (about : unit report) :
      RoleByRole validators event unit role [report]
  | unitFirst {report : α} {items : List α} (names : event.NamesLine) (unread : event.UnitUnread)
      (about : unit report) (each : List.Forall₂ role event.roles items) :
      RoleByRole validators event unit role (report :: items)
  | roles {items : List α} (usable : event.TakesDefaults → ¬event.UnitUnusable validators)
      (counted : event.TakesDefaults ∨ event.NamesLine → ∃ unit, event.HasUnit unit)
      (each : List.Forall₂ role event.roles items) :
      RoleByRole validators event unit role items

/-- What is said about a unit that is not a number, or that no peripheral of the kind has. -/
def unitRefusal (event : Event) (shown : String) : Issue :=
  Issue.located .unknownPeripheralKind s!"Invalid {event.kind.name} unit: {shown}" event.sourceId
    event.line

inductive UnitRequest (event : Event) : Request → Prop where
  | name {name : String} (given : event.unitArgument = .ok (.unresolved name)) :
      UnitRequest event (.note (event.unitWarning name))
  | text {value : Value} {shown : String} (unread : event.UnitUnread)
      (given : event.unitArgument = .ok value) (literal : ∀ name, value ≠ .unresolved name)
      (spelled : value.shown = .ok shown) : UnitRequest event (.issue (event.unitRefusal shown))
  | number {unit : Int} {shown : String} (number : event.HasUnit unit)
      (spelled : Numeral.shown unit = .ok shown) :
      UnitRequest event (.issue (event.unitRefusal shown))

inductive RoleRequest (event : Event) (role : PinRole) : Request → Prop where
  | missing (own : ¬event.TakesDefaults) (absent : ¬event.Gives role) :
      RoleRequest event role (event.missingPin role.role)
  | given {unit : Option Int} (own : ¬event.TakesDefaults) (gives : event.Gives role)
      (counted : event.NamesLine → ∀ number, event.HasUnit number → unit = some number) :
      RoleRequest event role (event.claimRequest (event.pinOf role) role.role unit)
  | fromUnit (defaults : event.TakesDefaults) (pin : Pin) (unit : Int) :
      RoleRequest event role (event.claimRequest (.pin pin) role.role (some unit))

theorem TakesDefaults.not_namesLine (defaults : event.TakesDefaults) : ¬event.NamesLine := by
  rintro ⟨uart, named⟩
  rcases defaults with spi | ⟨_, txd, rxd, _⟩
  · simp [usesSpiDefaults, uart] at spi
  · rcases named with named | named
    · cases txd.symm.trans named
    · cases rxd.symm.trans named

theorem HasUnit.not_unread {unit : Int} (number : event.HasUnit unit) : ¬event.UnitUnread := by
  rintro ⟨value, given, present, unread⟩
  rcases number with ⟨absent, _⟩ | number
  · cases absent.symm.trans given
    cases present
  · rw [Event.unit, given] at number
    cases number.symm.trans unread

theorem HasUnit.unique {unit other : Int} (number : event.HasUnit unit)
    (another : event.HasUnit other) : unit = other := by
  have unread (absent : event.unitArgument = .ok .nil) : event.unit = .ok none := by
    rw [Event.unit, absent]
    rfl
  rcases number with ⟨absent, rfl⟩ | read <;> rcases another with ⟨missing, rfl⟩ | again
  · rfl
  · cases (unread absent).symm.trans again
  · cases (unread missing).symm.trans read
  · cases read.symm.trans again
    rfl

theorem HasUnit.literal {unit : Int} (number : event.HasUnit unit) (name : String) :
    event.unitArgument ≠ .ok (.unresolved name) := by
  intro given
  exact number.not_unread ⟨_, given, rfl, rfl⟩

/-- The unit of an event has a number, or what is wrong with it is said, or processing stops. -/
theorem unitOr_cases (event : Event) :
    (∃ unit, event.unitOr 1 = .number unit ∧ event.HasUnit unit) ∨
      (∃ fault, event.unitOr 1 = .unusable (.stop fault)) ∨
      ∃ reason, event.unitOr 1 = .unusable reason ∧ event.UnitUnread ∧ event.UnitRequest reason := by
  unfold unitOr
  split
  · rename_i fault _
    exact .inr (.inl ⟨fault, rfl⟩)
  · rename_i given
    exact .inl ⟨1, rfl, .inl ⟨given, rfl⟩⟩
  · rename_i raw present given
    split
    · rename_i fault _
      exact .inr (.inl ⟨fault, rfl⟩)
    · rename_i unit read
      exact .inl ⟨unit, rfl, .inr read⟩
    · rename_i read
      have unread : event.UnitUnread := by
        refine ⟨raw, given, ?_, ?_⟩
        · exact Bool.eq_false_iff.mpr (mt Value.isNil_iff.mp present)
        · rwa [Event.unit, given] at read
      split
      · exact .inr (.inr ⟨_, rfl, unread, .name given⟩)
      · rename_i resolved
        split
        · rename_i fault _
          exact .inr (.inl ⟨fault, rfl⟩)
        · rename_i spelled
          exact .inr (.inr ⟨_, rfl, unread, .text unread given resolved spelled⟩)

theorem unknownUnit_cases (event : Event) {unit : Int} (number : event.HasUnit unit) :
    (∃ fault, event.unknownUnit unit = .stop fault) ∨ event.UnitRequest (event.unknownUnit unit) := by
  unfold unknownUnit
  split
  · rename_i fault _
    exact .inl ⟨fault, rfl⟩
  · rename_i spelled
    exact .inr (.number number spelled)

theorem takesOnePin_of_ne_uart (other : event.kind ≠ .uart) : event.takesOnePin = false := by
  simp [takesOnePin, other]

theorem not_gives_of_nil {role : PinRole} (several : event.takesOnePin = false)
    (absent : (event.pinOf role).isNil = true) : ¬event.Gives role := by
  simp [Gives, several, absent]

theorem roleRequest_cases (other : event.kind ≠ .uart) (own : ¬event.TakesDefaults)
    (role : PinRole) :
    (∃ fault, event.roleRequest role = .stop fault) ∨
      event.RoleRequest role (event.roleRequest role) := by
  unfold roleRequest
  simp only
  split
  · rename_i absent
    exact .inr (.missing own (not_gives_of_nil (takesOnePin_of_ne_uart other) absent))
  · rename_i present
    split
    · rename_i fault _
      exact .inl ⟨fault, rfl⟩
    · exact .inr (.given own (.inr (Bool.eq_false_iff.mpr present))
        fun names => absurd names.1 other)

theorem lineRequest_roleRequest (own : ¬event.TakesDefaults) (several : event.takesOnePin = false)
    (role name : String) {unit : Option Int}
    (counted : ∀ number, event.HasUnit number → unit = some number) :
    event.RoleRequest ⟨some role, name, none⟩
      (event.lineRequest role (event.namedValue name) unit) := by
  unfold lineRequest
  split
  · rename_i absent
    exact .missing own (not_gives_of_nil several absent)
  · rename_i present
    exact .given own (.inr (Bool.eq_false_iff.mpr present)) fun _ => counted

theorem roles_of_ne_uart (other : event.kind ≠ .uart) : event.roles = event.kind.pinRoles := by
  simp [roles, takesOnePin_of_ne_uart other]

theorem roleByRole_arguments (other : event.kind ≠ .uart) (named : event.usesSpiDefaults = false)
    (going : ∀ fault, .stop fault ∉ event.kind.pinRoles.map event.roleRequest) :
    event.RoleByRole validators event.UnitRequest event.RoleRequest
      (event.kind.pinRoles.map event.roleRequest) := by
  have given : ¬event.TakesDefaults := by
    rintro (defaults | ⟨uart, _⟩)
    · cases named.symm.trans defaults
    · exact other uart
  refine .roles (fun defaults => absurd defaults given) ?_ ?_
  · rintro (defaults | names)
    · exact absurd defaults given
    · exact absurd names.1 other
  · rw [roles_of_ne_uart other, List.forall₂_map_right_iff, List.forall₂_same]
    intro role member
    rcases roleRequest_cases other given role with ⟨fault, stopped⟩ | asked
    · exact absurd (List.mem_map.mpr ⟨role, member, stopped⟩) (going fault)
    · exact asked

theorem roleByRole_spi (defaults : event.usesSpiDefaults = true)
    (going : ∀ fault, .stop fault ∉ event.spiRequests validators) :
    event.RoleByRole validators event.UnitRequest event.RoleRequest
      (event.spiRequests validators) := by
  have takes : event.TakesDefaults := .inl defaults
  have kind : event.kind = .spi := by
    simp only [usesSpiDefaults, Bool.and_eq_true, beq_iff_eq] at defaults
    exact defaults.1.1
  unfold spiRequests at *
  rcases event.unitOr_cases with
    ⟨unit, chosen, number⟩ | ⟨fault, stopped⟩ | ⟨reason, unusable, unread, about⟩
  · simp only [chosen] at going ⊢
    split at going
    · exact absurd (List.mem_singleton.mpr rfl) (going .missingName)
    · cases found : SpiPins.ofUnit? unit with
      | none =>
        simp only [found] at going ⊢
        have unknown : event.UnitUnknown validators := ⟨unit, number, by rw [kind]; exact found⟩
        rcases event.unknownUnit_cases number with ⟨fault, stopped⟩ | about
        · exact absurd (List.mem_singleton.mpr stopped.symm) (going fault)
        · exact .unitOnly takes (.inr unknown) about
      | some pins =>
        refine .roles ?_ (fun _ => ⟨unit, number⟩) ?_
        · rintro _ (unread | ⟨other, another, missing⟩)
          · exact number.not_unread unread
          · cases number.unique another
            rw [kind] at missing
            cases missing.symm.trans found
        · rw [roles_of_ne_uart (by rw [kind]; decide), kind]
          exact .cons (.fromUnit takes _ _) (.cons (.fromUnit takes _ _)
            (.cons (.fromUnit takes _ _) .nil))
  · simp only [stopped] at going
    exact absurd (List.mem_singleton.mpr rfl) (going fault)
  · simp only [unusable]
    exact .unitOnly takes (.inl unread) about

theorem takesOnePin_iff :
    event.takesOnePin = true ↔ event.kind = .uart ∧ (event.namedValue "txd_pin").isNil = true ∧
      (event.namedValue "rxd_pin").isNil = true ∧ event.positional ≠ [] ∧
      event.unitArgument = .ok .nil := by
  unfold takesOnePin
  cases event.unitArgument with
  | error fault => simp
  | ok value => simp [Value.isNil_iff, and_assoc]

theorem roleByRole_onePin (one : event.takesOnePin = true) :
    event.RoleByRole validators event.UnitRequest event.RoleRequest
      (event.uartRequests validators) := by
  obtain ⟨uart, txd, rxd, begins, absent⟩ := takesOnePin_iff.mp one
  obtain ⟨first, rest, positional⟩ := List.exists_cons_of_ne_nil begins
  have asked : event.uartRequests validators =
      [event.claimRequest (event.pinOf onlyPin) onlyPin.role none] := by
    have own : event.pinOf onlyPin = first := by simp [pinOf, onlyPin, argument, positional]
    rw [own]
    simp [uartRequests, positional, txd, rxd, absent, onlyPin]
  have given : ¬event.TakesDefaults := by
    rintro (spi | ⟨_, _, _, nothing | unit⟩)
    · simp [usesSpiDefaults, uart] at spi
    · exact begins nothing
    · exact unit absent
  have unnamed : ¬event.NamesLine := by
    rintro ⟨_, named | named⟩
    · cases txd.symm.trans named
    · cases rxd.symm.trans named
  rw [asked]
  refine .roles (fun defaults => absurd defaults given) ?_ ?_
  · rintro (defaults | names)
    · exact absurd defaults given
    · exact absurd names unnamed
  · rw [roles, if_pos one]
    exact .cons (.given given (.inl one) fun names => absurd names unnamed) .nil

theorem roleByRole_named (uart : event.kind = .uart) (several : event.takesOnePin = false)
    (named : ((event.namedValue "txd_pin").isNil && (event.namedValue "rxd_pin").isNil) = false)
    (going : ∀ fault, .stop fault ∉ event.uartUnitRequests validators) :
    event.RoleByRole validators event.UnitRequest event.RoleRequest
      (event.uartUnitRequests validators) := by
  have names : event.NamesLine := ⟨uart, Bool.and_eq_false_iff.mp named⟩
  have given : ¬event.TakesDefaults := fun defaults => defaults.not_namesLine names
  have lines {unit : Option Int} (counted : ∀ number, event.HasUnit number → unit = some number) :
      List.Forall₂ event.RoleRequest event.roles
        [event.lineRequest "TXD" (event.namedValue "txd_pin") unit,
          event.lineRequest "RXD" (event.namedValue "rxd_pin") unit] := by
    rw [roles, several, uart]
    exact .cons (lineRequest_roleRequest given several _ _ counted)
      (.cons (lineRequest_roleRequest given several _ _ counted) .nil)
  unfold uartUnitRequests at *
  simp only [named, Bool.false_eq_true, ↓reduceIte] at going ⊢
  rcases event.unitOr_cases with
    ⟨unit, chosen, number⟩ | ⟨fault, stopped⟩ | ⟨reason, unusable, unread, about⟩
  · simp only [chosen]
    exact .roles (fun defaults => absurd defaults given) (fun _ => ⟨unit, number⟩)
      (lines fun other another => congrArg some (number.unique another))
  · simp only [stopped] at going
    exact absurd (List.mem_cons_self ..) (going fault)
  · simp only [unusable]
    exact .unitFirst names unread about (lines fun _ number => absurd unread number.not_unread)

theorem roleByRole_uart (uart : event.kind = .uart) (several : event.takesOnePin = false)
    (txd : (event.namedValue "txd_pin").isNil = true)
    (rxd : (event.namedValue "rxd_pin").isNil = true)
    (going : ∀ fault, .stop fault ∉ event.uartUnitRequests validators) :
    event.RoleByRole validators event.UnitRequest event.RoleRequest
      (event.uartUnitRequests validators) := by
  have takes : event.TakesDefaults := by
    refine .inr ⟨uart, txd, rxd, ?_⟩
    by_contra neither
    obtain ⟨begins, absent⟩ := not_or.mp neither
    rw [takesOnePin_iff.mpr ⟨uart, txd, rxd, begins, not_not.mp absent⟩] at several
    cases several
  unfold uartUnitRequests at *
  simp only [txd, rxd, Bool.and_self, ↓reduceIte] at going ⊢
  rcases event.unitOr_cases with
    ⟨unit, chosen, number⟩ | ⟨fault, stopped⟩ | ⟨reason, unusable, unread, about⟩
  · simp only [chosen, uartDefaultRequests] at going ⊢
    split at going
    · exact absurd (List.mem_singleton.mpr rfl) (going .missingName)
    · rename_i validator offered
      cases found : validator.uartDefaults? unit with
      | none =>
        simp only [found] at going ⊢
        have unknown : event.UnitUnknown validators := by
          refine ⟨unit, number, ?_⟩
          rw [uart]
          intro other same
          cases offered.symm.trans same
          exact found
        rcases event.unknownUnit_cases number with ⟨fault, stopped⟩ | about
        · exact absurd (List.mem_singleton.mpr stopped.symm) (going fault)
        · exact .unitOnly takes (.inr unknown) about
      | some pins =>
        refine .roles ?_ (fun _ => ⟨unit, number⟩) ?_
        · rintro _ (unread | ⟨other, another, missing⟩)
          · exact number.not_unread unread
          · cases number.unique another
            rw [uart] at missing
            cases (missing validator offered).symm.trans found
        · rw [roles, several, uart]
          exact .cons (.fromUnit takes _ _) (.cons (.fromUnit takes _ _) .nil)
  · simp only [stopped] at going
    exact absurd (List.mem_singleton.mpr rfl) (going fault)
  · simp only [unusable]
    exact .unitOnly takes (.inl unread) about

theorem uartRequests_of_several (uart : event.kind = .uart) (several : event.takesOnePin = false)
    (going : ∀ fault, .stop fault ∉ event.uartRequests validators) :
    event.uartRequests validators = event.uartUnitRequests validators := by
  unfold uartRequests at *
  split
  · rename_i first rest positional
    split
    · rename_i unnamed
      split
      · rename_i fault failed
        simp only [positional, unnamed, ↓reduceIte, failed] at going
        exact absurd (List.mem_singleton.mpr rfl) (going fault)
      · rename_i absent
        obtain ⟨txd, rxd⟩ := Bool.and_eq_true_iff.mp unnamed
        have one := takesOnePin_iff.mpr ⟨uart, txd, rxd, by simp [positional], absent⟩
        cases several.symm.trans one
      · rfl
    · rfl
  · rfl

/-- What an event asks for follows its roles. -/
theorem requests_roleByRole (going : ∀ fault, .stop fault ∉ event.requests validators) :
    event.RoleByRole validators event.UnitRequest event.RoleRequest (event.requests validators) := by
  by_cases uart : event.kind = .uart
  · have asked : event.requests validators = event.uartRequests validators := by
      simp only [requests, uart]
    rw [asked] at going ⊢
    cases one : event.takesOnePin with
    | true => exact roleByRole_onePin one
    | false =>
      have asked := uartRequests_of_several uart one going
      rw [asked] at going ⊢
      cases named : (event.namedValue "txd_pin").isNil && (event.namedValue "rxd_pin").isNil with
      | false => exact roleByRole_named uart one named going
      | true =>
        obtain ⟨txd, rxd⟩ := Bool.and_eq_true_iff.mp named
        exact roleByRole_uart uart one txd rxd going
  · have asked : event.requests validators =
        if event.usesSpiDefaults then event.spiRequests validators
        else event.kind.pinRoles.map event.roleRequest := by
      unfold requests
      split
      · exact absurd ‹_› uart
      · rfl
    rw [asked] at going ⊢
    cases defaults : event.usesSpiDefaults with
    | true =>
      simp only [defaults, ↓reduceIte] at going ⊢
      exact roleByRole_spi defaults going
    | false =>
      simp only [defaults, Bool.false_eq_true, ↓reduceIte] at going ⊢
      exact roleByRole_arguments uart defaults going

theorem unitReport_of_request {request : Request} {judged : Verdict}
    (about : event.UnitRequest request) (came : old.ComesTo new request judged) :
    event.UnitReport judged := by
  obtain ⟨between, _, rfl, _⟩ := came
  cases about with
  | name given => exact .unchecked given
  | text _ given literal _ =>
    refine .invalid ?_ rfl rfl rfl
    intro name same
    exact literal name (Except.ok.inj (given.symm.trans same))
  | number number _ => exact .invalid number.literal rfl rfl rfl

theorem name_of_mem_roles {role : PinRole} (own : role ∈ event.roles) {name : String}
    (named : role.role = some name) : name.isEmpty = false := by
  have listed (kind : Kind) : ∀ role ∈ kind.pinRoles, ∀ name ∈ role.role, name.isEmpty = false := by
    cases kind <;> decide
  unfold roles at own
  split at own
  · rw [List.mem_singleton.mp own] at named
    cases named
  · exact listed event.kind role own name named

theorem roleOutcome_of_claim {role : PinRole} {value : Value} {unit : Option Int}
    {validator : Validator} {held : Dict Pin Record} {judged : Verdict}
    (own : role ∈ event.roles)
    (asked : event.TakesDefaults ∧ value.mentionsName = false ∨ value = event.pinOf role)
    (came : Claim.verdict ⟨value, event.kind, event.sourceId, event.line, role.role, event.holder,
      unit⟩ (some validator) held = judged)
    (going : ∀ fault, judged ≠ .stopped fault) : event.RoleOutcome role judged := by
  cases judged with
  | stopped fault => exact absurd rfl (going fault)
  | refused issue =>
    obtain ⟨source, line, kind⟩ := Claim.refused_of_verdict came
    exact .refused kind source line
  | unchecked warning =>
    obtain ⟨name, shown, outlined, rfl⟩ := Claim.unchecked_of_verdict came
    rcases asked with ⟨_, literal⟩ | rfl
    · cases literal.symm.trans name
    · exact .unread name outlined
  | accepted record advice =>
    obtain ⟨named, _, _, entry, info, _, _, same⟩ := Claim.verdict_accepted came
    obtain ⟨_, _, words, advised, rfl⟩ := Claim.advice_of_accepted came
    have function (name : String) (asked : role.role = some name) : record.function = some name := by
      rw [same]
      simp [Claim.record, asked, Option.filter_some, name_of_mem_roles own asked]
    refine .granted ?_ (by rw [same]; rfl) (by rw [same]; rfl) (by rw [same]; rfl)
      (by rw [same]; rfl) function ?_
    · rcases asked with ⟨defaults, _⟩ | rfl
      · exact .inl defaults
      · exact .inr named
    · intro text member
      obtain ⟨own, told, rfl⟩ := List.mem_map.mp member
      exact ⟨own, rfl, Validator.cites_validateForUnit advised own told⟩

theorem roleOutcome_of_request {role : PinRole} {request : Request} {judged : Verdict}
    {validator : Validator} (offered : old.validators event.kind = some validator)
    (own : role ∈ event.roles) (asked : event.RoleRequest role request)
    (came : old.ComesTo new request judged) : event.RoleOutcome role judged := by
  obtain ⟨between, ⟨_, _, kept⟩, came, going⟩ := came
  rw [← kept] at offered
  cases asked with
  | missing given absent =>
    subst came
    refine .missing given ?_ rfl
    simpa using (not_or.mp absent).2
  | given =>
    rw [claimRequest, Registry.outcome, Registry.verdict, offered] at came
    exact roleOutcome_of_claim own (.inr rfl) came going
  | fromUnit defaults pin unit =>
    rw [claimRequest, Registry.outcome, Registry.verdict, offered] at came
    exact roleOutcome_of_claim own (.inl ⟨defaults, rfl⟩) came going

theorem forall₂_comp {α β γ : Type} {S : α → β → Prop} {R : β → γ → Prop} {T : α → γ → Prop}
    {front : List α} {middle : List β} {back : List γ} (first : List.Forall₂ S front middle)
    (second : List.Forall₂ R middle back)
    (step : ∀ x ∈ front, ∀ y z, S x y → R y z → T x z) : List.Forall₂ T front back := by
  induction first generalizing back with
  | nil =>
    cases second
    exact .nil
  | cons own _ ih =>
    cases second with
    | cons next others =>
      refine .cons (step _ (List.mem_cons_self ..) _ _ own next) (ih others ?_)
      exact fun x member => step x (List.mem_cons_of_mem _ member)

/-- What a list says role by role, a list that goes with it says in the same way. -/
theorem RoleByRole.comp {α β : Type} {R : α → β → Prop} {unit : α → Prop} {unit' : β → Prop}
    {role : PinRole → α → Prop} {role' : PinRole → β → Prop} {front : List α} {back : List β}
    (path : event.RoleByRole validators unit role front) (came : List.Forall₂ R front back)
    (units : ∀ x y, unit x → R x y → unit' y)
    (roles : ∀ own ∈ event.roles, ∀ x y, role own x → R x y → role' own y) :
    event.RoleByRole validators unit' role' back := by
  cases path with
  | unitOnly defaults unusable about =>
    obtain ⟨judged, rest, own, nothing, rfl⟩ := List.forall₂_cons_left_iff.mp came
    cases nothing
    exact .unitOnly defaults unusable (units _ _ about own)
  | unitFirst names unread about each =>
    obtain ⟨judged, rest, own, others, rfl⟩ := List.forall₂_cons_left_iff.mp came
    exact .unitFirst names unread (units _ _ about own) (forall₂_comp each others roles)
  | roles usable counted each => exact .roles usable counted (forall₂_comp each came roles)

end Event

namespace Registry

variable {registry : Registry} {event : Event} {validator : Validator}

theorem exists_outcomes (offered : registry.validators event.kind = some validator)
    (quiet : (registry.process event).fault = none) :
    ∃ outcomes, registry.Adds (registry.process event).registry outcomes ∧
      event.RoleByRole registry.validators event.UnitReport event.RoleOutcome outcomes := by
  obtain ⟨outcomes, added, came⟩ := adds_handleAll quiet
  refine ⟨outcomes, added, (Event.requests_roleByRole (stop_not_mem quiet)).comp came ?_ ?_⟩
  · exact fun _ _ => Event.unitReport_of_request
  · exact fun _ own _ _ => Event.roleOutcome_of_request offered own

/-- An event of a kind on offer that meets no fault adds outcomes to a registry, whatever state it
is in, and nothing else. There is one outcome for each role of the event, in the order of the roles,
with two exceptions that come from the unit. An event that leaves its pins to the defaults of a unit
that is no number, or that has no default pins, adds one issue or warning on the unit and no record;
a UART that names its pins adds one on a unit that is no number, in front of those for its roles. -/
theorem process_settles_each_role (offered : registry.validators event.kind = some validator)
    (quiet : (registry.process event).fault = none) :
    let after := (registry.process event).registry
    let unitFails := event.TakesDefaults ∧ event.UnitUnusable registry.validators
    let unitLeftOut := event.NamesLine ∧ event.UnitUnread
    ∃ outcomes, registry.Adds after outcomes ∧
      (unitFails → after.accepted = registry.accepted ∧
        ∃ report, outcomes = [report] ∧ event.UnitReport report) ∧
      (unitLeftOut → ∃ report settled, outcomes = report :: settled ∧ event.UnitReport report ∧
        List.Forall₂ event.RoleOutcome event.roles settled) ∧
      (¬unitFails → ¬unitLeftOut → List.Forall₂ event.RoleOutcome event.roles outcomes) := by
  intro after unitFails unitLeftOut
  obtain ⟨outcomes, added, path⟩ := exists_outcomes offered quiet
  refine ⟨outcomes, added, ?_, ?_, ?_⟩
  · rintro ⟨defaults, unusable⟩
    cases path with
    | unitOnly _ _ about =>
      refine ⟨?_, _, rfl, about⟩
      rw [added.accepted]
      cases about <;> exact List.append_nil _
    | unitFirst names => exact absurd names defaults.not_namesLine
    | roles usable => exact absurd unusable (usable defaults)
  · rintro ⟨names, unread⟩
    cases path with
    | unitOnly defaults => exact absurd names defaults.not_namesLine
    | unitFirst _ _ about each => exact ⟨_, _, rfl, about, each⟩
    | roles _ counted =>
      obtain ⟨unit, number⟩ := counted (.inr names)
      exact absurd unread number.not_unread
  · intro working counted
    cases path with
    | unitOnly defaults unusable => exact absurd ⟨defaults, unusable⟩ working
    | unitFirst names unread => exact absurd ⟨names, unread⟩ counted
    | roles _ _ each => exact each

/-- A serial line with a pin, a name for the other pin, and a name for its unit. -/
private def halfNamedLine : Event :=
  { kind := .uart, sourceId := "main", line := 4,
    named := [("txd_pin", .int 9), ("rxd_pin", .unresolved "rx"), ("unit", .unresolved "port")] }

theorem process_settles_each_role_half_named :
    let after := (fresh.process halfNamedLine).registry
    after.accepted.length = 1 ∧ after.errors = [] ∧
      ∃ report settled, fresh.Adds after (report :: settled) ∧ halfNamedLine.UnitReport report ∧
        List.Forall₂ halfNamedLine.RoleOutcome halfNamedLine.roles settled ∧
        halfNamedLine.roles.length = 2 := by
  intro after
  have quiet : (fresh.process halfNamedLine).fault = none := by decide +kernel
  have names : halfNamedLine.NamesLine := ⟨rfl, .inl rfl⟩
  have unread : halfNamedLine.UnitUnread := ⟨.unresolved "port", rfl, rfl, rfl⟩
  have offered : fresh.validators halfNamedLine.kind = some (Validator.standard .uart) := rfl
  obtain ⟨outcomes, added, _, first, _⟩ := process_settles_each_role offered quiet
  obtain ⟨report, settled, rfl, about, each⟩ := first ⟨names, unread⟩
  exact ⟨by decide +kernel, by decide +kernel, report, settled, added, about, each, rfl⟩

end Registry

end PinBudget
