import PinBudget.Proofs.Allocation.Outcomes

/-!
Every failure has a report of its own. What can be wrong with a claim, with the unit of an event and
with a bid is listed here together with what is said about it; processing says exactly that, and
goes on.
-/
namespace PinBudget

/-- The validators on offer are the board's own, for all kinds or for some. -/
def Validators.Board (validators : Validators) : Prop :=
  ∀ kind validator, validators kind = some validator → validator = Validator.standard kind

theorem Validators.board_only (kinds : List Kind) : (Validators.only kinds).Board := by
  intro kind validator offered
  unfold only at offered
  split at offered
  · cases offered
    rfl
  · cases offered

namespace Claim

variable {claim : Claim} {registry : Registry} {report : Verdict}

/-- What is wrong with a claim in a state of a registry, and what is said about it. -/
inductive Failure (claim : Claim) (registry : Registry) : Verdict → Prop where
  | unoffered (missing : registry.validators claim.kind = none) :
      Failure claim registry
        (claim.refusal .unknownPeripheralKind s!"Unsupported peripheral: {claim.kind.name}")
  | unread {validator : Validator} {shown : String}
      (offered : registry.validators claim.kind = some validator)
      (name : claim.value.mentionsName = true) (outlined : claim.value.outline = .ok shown) :
      Failure claim registry
        (.unchecked
          (s!"{claim.sourceId}:{claim.line}: {claim.kind.name} pin {shown} is not a literal - " ++
            "pin usage not checked"))
  | misread {validator : Validator} {error : PinError}
      (offered : registry.validators claim.kind = some validator)
      (literal : claim.value.mentionsName = false)
      (read : Pin.ofValue claim.value = .error (.pin error)) :
      Failure claim registry (claim.refusal error.issueKind error.message)
  | taken {validator : Validator} {pin : Pin} {existing : Record}
      (offered : registry.validators claim.kind = some validator)
      (named : claim.value.literalPin? = some pin)
      (held : registry.pinMap.get? pin = some existing) :
      Failure claim registry
        (claim.refusal .duplicatePinClaim
          (takenMessage pin existing.kind existing.sourceId existing.line))
  | unsupported {validator : Validator} {pin : Pin} {reason : String}
      (offered : registry.validators claim.kind = some validator)
      (named : claim.value.literalPin? = some pin) (free : registry.pinMap.get? pin = none)
      (refused : validator.validateForUnit pin claim.line claim.function claim.unit =
        .refused reason) :
      Failure claim registry
        (.refused
          { kind := .unsupportedPeripheralForPin
            message := s!"{claim.sourceId}: {reason}"
            sourceId := claim.sourceId
            line := some claim.line })

theorem Failure.verdict (failed : claim.Failure registry report) :
    registry.verdict claim = report ∧ report.isGranted = false := by
  cases failed with
  | unoffered missing => exact ⟨by rw [Registry.verdict, missing]; rfl, rfl⟩
  | unread offered name outlined =>
    refine ⟨?_, rfl⟩
    simp [Registry.verdict, Claim.verdict, offered, name, uncheckedVerdict, outlined]
  | misread offered literal read =>
    refine ⟨?_, rfl⟩
    simp [Registry.verdict, Claim.verdict, offered, literal, read, Claim.misread]
  | taken offered named held =>
    refine ⟨?_, rfl⟩
    rw [Registry.verdict, offered, verdict_of_held claim named held]
    rfl
  | unsupported offered named free refused =>
    refine ⟨?_, rfl⟩
    obtain ⟨literal, read⟩ := Value.literalPin?_eq_some_iff.mp named
    simp [Registry.verdict, Claim.verdict, offered, literal, read, free, validated, refused]

theorem failure_of_validated {validator : Validator} {pin : Pin}
    (offered : registry.validators claim.kind = some validator)
    (named : claim.value.literalPin? = some pin) (free : registry.pinMap.get? pin = none)
    (going : ∀ fault, claim.validated validator pin ≠ .stopped fault)
    (refused : (claim.validated validator pin).isGranted = false) :
    claim.Failure registry (claim.validated validator pin) := by
  unfold validated at *
  cases asked : validator.validateForUnit pin claim.line claim.function claim.unit with
  | refused reason => exact .unsupported offered named free asked
  | granted entry info advice =>
    simp only [asked] at going refused
    cases shown : claim.unitFault? entry with
    | some fault =>
      simp only [shown] at going
      exact absurd rfl (going fault)
    | none =>
      simp only [shown] at refused
      cases refused

/-- A claim that is not granted, and meets no fault, fails for one of the reasons listed. -/
theorem failure_of_refused (going : ∀ fault, registry.verdict claim ≠ .stopped fault)
    (refused : (registry.verdict claim).isGranted = false) :
    claim.Failure registry (registry.verdict claim) := by
  unfold Registry.verdict verdict at *
  cases offered : registry.validators claim.kind with
  | none => exact .unoffered offered
  | some validator =>
    simp only [offered] at going refused ⊢
    cases literal : claim.value.mentionsName with
    | true =>
      simp only [literal, ↓reduceIte, uncheckedVerdict] at going ⊢
      cases outlined : claim.value.outline with
      | error fault =>
        simp only [outlined] at going
        exact absurd rfl (going fault)
      | ok shown => exact .unread offered literal outlined
    | false =>
      simp only [literal, Bool.false_eq_true, ↓reduceIte] at going refused ⊢
      cases read : Pin.ofValue claim.value with
      | error fault =>
        simp only [read] at going ⊢
        cases fault with
        | pin error => exact .misread offered literal read
        | _ => exact absurd rfl (going _)
      | ok pin =>
        have named := Value.literalPin?_eq_some_iff.mpr ⟨literal, read⟩
        cases found : registry.pinMap.get? pin with
        | some existing =>
          simp only [found]
          exact .taken offered named found
        | none =>
          simp only [read, found] at going refused ⊢
          exact failure_of_validated offered named found going refused

/-- A claim that meets no fault is granted, or its verdict is the report of its failure. -/
theorem failure_iff (going : ∀ fault, registry.verdict claim ≠ .stopped fault) :
    claim.Failure registry report ↔ registry.verdict claim = report ∧ report.isGranted = false := by
  constructor
  · exact Failure.verdict
  · rintro ⟨rfl, refused⟩
    exact failure_of_refused going refused

/-- A serial pin of another unit than the one that is asked for is granted with a warning. -/
theorem warned_of_otherUnit {held : Dict Pin Record} {record : Record} {warnings : List String}
    {number : Int}
    (granted : claim.verdict (some (Validator.standard .uart)) held = .accepted record warnings)
    (asked : claim.unit = some number)
    (foreign : ∀ entry ∈ (Validator.standard .uart).entries record.pin, number ∉ entry.units) :
    ∃ front, front ++ s!"but UART{number} was requested" ∈ warnings := by
  obtain ⟨entry, info, advice, validated, rfl⟩ := advice_of_accepted granted
  have grants := Validator.grants_validateForUnit.mp ⟨info, advice, validated⟩
  have other := foreign entry (Validator.mem_of_validate grants).1
  obtain ⟨text, words, own⟩ := grants
  simp only [Validator.validateForUnit, Validator.standard, asked] at validated own
  rw [own] at validated
  simp only [Validator.warnOtherUnit, List.contains_iff_mem, other, ↓reduceIte] at validated
  cases validated
  simp only [toString_text, List.map_append, List.map_cons, List.map_nil, ← String.append_assoc]
  exact ⟨_, List.mem_append_right _ (List.mem_singleton.mpr rfl)⟩

end Claim

/-- What is wrong with a bid, and what is said about it: nothing goes by the name of its kind, or
its claim fails. -/
inductive Bid.Failure (bid : Bid) (registry : Registry) : Verdict → Prop where
  | unknown {fault : Fault} (unparsed : Kind.parse bid.kindName = .error fault) :
      Failure bid registry
        (.refused (Issue.located .unknownPeripheralKind fault.message bid.sourceId bid.line))
  | claim {kind : Kind} {report : Verdict} (parsed : Kind.parse bid.kindName = .ok kind)
      (failed : (bid.claim kind).Failure registry report) : Failure bid registry report

namespace Event

variable {event : Event} {role : PinRole} {validators : Validators} {earlier later : Registry}
variable {request : Request} {judged report other : Verdict}

/-- What is wrong with the unit that an event goes by, and what is said about it. An event goes by
its unit where it leaves its pins to it, and a UART also where it names its pins. An SPI
construction with pins of its own does not look at its unit, nor do the kinds without units. -/
inductive UnitFailure (validators : Validators) (event : Event) : Verdict → Prop where
  | name {name : String} (used : event.TakesDefaults ∨ event.NamesLine)
      (given : event.unitArgument = .ok (.unresolved name)) :
      UnitFailure validators event (.unchecked (event.unitWarning name))
  | text {value : Value} {shown : String} (used : event.TakesDefaults ∨ event.NamesLine)
      (unread : event.UnitUnread) (given : event.unitArgument = .ok value)
      (literal : ∀ name, value ≠ .unresolved name) (spelled : value.shown = .ok shown) :
      UnitFailure validators event (.refused (event.unitRefusal shown))
  | number {unit : Int} {shown : String} (defaults : event.TakesDefaults)
      (number : event.HasUnit unit) (unknown : event.UnitUnknown validators)
      (spelled : Numeral.shown unit = .ok shown) :
      UnitFailure validators event (.refused (event.unitRefusal shown))

theorem UnitFailure.unique (failed : event.UnitFailure validators report)
    (again : event.UnitFailure validators other) : report = other := by
  cases failed with
  | name _ given =>
    cases again with
    | name _ same =>
      cases given.symm.trans same
      rfl
    | text _ _ same literal _ =>
      cases given.symm.trans same
      exact absurd rfl (literal _)
    | number _ number _ _ => exact absurd given (number.literal _)
  | text _ unread given literal spelled =>
    cases again with
    | name _ same =>
      cases given.symm.trans same
      exact absurd rfl (literal _)
    | text _ _ same _ another =>
      cases given.symm.trans same
      cases spelled.symm.trans another
      rfl
    | number _ number _ _ => exact absurd unread number.not_unread
  | number _ number _ spelled =>
    cases again with
    | name _ given => exact absurd given (number.literal _)
    | text _ unread _ _ _ => exact absurd unread number.not_unread
    | number _ same _ another =>
      cases number.unique same
      cases spelled.symm.trans another
      rfl

theorem unitFailure_of_request
    (faulty : (event.TakesDefaults ∨ event.NamesLine) ∧ event.UnitUnread ∨
      event.TakesDefaults ∧ event.UnitUnknown validators)
    (about : event.UnitRequest request) (came : earlier.ComesTo later request judged) :
    event.UnitFailure validators judged := by
  have used : event.TakesDefaults ∨ event.NamesLine :=
    faulty.elim And.left fun unknown => .inl unknown.1
  obtain ⟨between, _, rfl, _⟩ := came
  cases about with
  | name given => exact .name used given
  | text unread given literal spelled => exact .text used unread given literal spelled
  | number number spelled =>
    rcases faulty with ⟨_, unread⟩ | ⟨defaults, unknown⟩
    · exact absurd unread number.not_unread
    · exact .number defaults number unknown spelled

/-- A claim that an event makes for a role: on the value that it gives, or on a pin that follows
from its unit. -/
structure ClaimsFor (event : Event) (role : PinRole) (claim : Claim) : Prop where
  value : ¬event.TakesDefaults ∧ event.Gives role ∧ claim.value = event.pinOf role ∨
    event.TakesDefaults ∧ ∃ pin, claim.value = .pin pin
  kind : claim.kind = event.kind
  sourceId : claim.sourceId = event.sourceId
  line : claim.line = event.line
  function : claim.function = role.role
  holder : claim.holder = event.holder
  unit : event.NamesLine → ∀ number, event.HasUnit number → claim.unit = some number

/-- What is said about the pin of a role on the way from one state of a registry to another. A pin
that is not given is missed. Any other is claimed, in a state in between: the claim is granted, or
the report of its failure is what is said. A serial pin of another unit than the one given is
granted with a warning. -/
inductive PinAnswer (earlier later : Registry) (event : Event) (role : PinRole)
    (judged : Verdict) : Prop where
  | missed {warning : String} (own : ¬event.TakesDefaults) (absent : ¬event.Gives role)
      (noted : event.missingPin role.role = .note warning) (said : judged = .unchecked warning)
  | claimed {claim : Claim} {between : Registry} (asked : event.ClaimsFor role claim)
      (on : earlier.Between later between)
      (failed : ∀ report, claim.Failure between report ↔
        judged = report ∧ report.isGranted = false)
      (otherUnit : claim.kind = .uart → ∀ record advice number, judged = .accepted record advice →
        claim.unit = some number →
          (∀ entry ∈ (Validator.standard .uart).entries record.pin, number ∉ entry.units) →
            ∃ front, front ++ s!"but UART{number} was requested" ∈ advice)

theorem pinAnswer_of_claim {claim : Claim} {between : Registry} (board : earlier.validators.Board)
    (asked : event.ClaimsFor role claim) (on : earlier.Between later between)
    (came : between.verdict claim = judged) (going : ∀ fault, judged ≠ .stopped fault) :
    event.PinAnswer earlier later role judged := by
  subst came
  refine .claimed asked on (fun report => Claim.failure_iff going) ?_
  intro serial record advice number granted unit foreign
  obtain ⟨_, _, validator, _, _, offered, _⟩ := Claim.verdict_accepted granted
  have own : validator = Validator.standard .uart := by
    rw [on.validators, serial] at offered
    exact board _ _ offered
  rw [Registry.verdict, offered, own] at granted
  exact Claim.warned_of_otherUnit granted unit foreign

theorem PinAnswer.unoffered (answer : event.PinAnswer earlier later role judged)
    (missing : earlier.validators event.kind = none) (gives : event.Gives role) :
    judged = .refused (Issue.located .unknownPeripheralKind
      s!"Unsupported peripheral: {event.kind.name}" event.sourceId event.line) := by
  cases answer with
  | missed _ absent _ _ => exact absurd gives absent
  | @claimed claim between asked on failed _ =>
    have without : between.validators claim.kind = none := by
      rw [on.validators, asked.kind]
      exact missing
    rw [((failed _).mp (.unoffered without)).1, Claim.refusal, asked.kind, asked.sourceId,
      asked.line]

theorem pinAnswer_of_request (board : earlier.validators.Board)
    (asked : event.RoleRequest role request) (came : earlier.ComesTo later request judged) :
    event.PinAnswer earlier later role judged := by
  obtain ⟨between, on, came, going⟩ := came
  cases asked with
  | missing own absent => exact .missed own absent rfl came.symm
  | given own gives counted =>
    refine pinAnswer_of_claim board ?_ on came going
    exact ⟨.inl ⟨own, gives, rfl⟩, rfl, rfl, rfl, rfl, rfl, counted⟩
  | fromUnit defaults pin unit =>
    refine pinAnswer_of_claim board ?_ on came going
    exact ⟨.inr ⟨defaults, pin, rfl⟩, rfl, rfl, rfl, rfl, rfl,
      fun names => absurd names defaults.not_namesLine⟩

/-- What is said about an event: first what is wrong with its unit, then what there is to say role
by role. There is nothing to say about the roles where their pins were to follow from a unit with
something wrong. -/
structure Answered (earlier later : Registry) (event : Event) (units pins : List Verdict) :
    Prop where
  unit : ∀ report, event.UnitFailure earlier.validators report ↔ report ∈ units
  roles : units = [] ∨ ¬event.TakesDefaults →
    List.Forall₂ (event.PinAnswer earlier later) event.roles pins

/-- A single report on a unit is all that there is to say about it. -/
theorem UnitFailure.iff_mem (failed : event.UnitFailure validators report) :
    event.UnitFailure validators other ↔ other ∈ [report] := by
  rw [List.mem_singleton]
  constructor
  · exact fun again => again.unique failed
  · rintro rfl
    exact failed

theorem answered_of_roleByRole {requests : List Request} {outcomes : List Verdict}
    (board : earlier.validators.Board)
    (path : event.RoleByRole earlier.validators event.UnitRequest event.RoleRequest requests)
    (came : List.Forall₂ (earlier.ComesTo later) requests outcomes) :
    ∃ units pins, outcomes = units ++ pins ∧ event.Answered earlier later units pins := by
  have answers : event.RoleByRole earlier.validators
      (fun judged => ∃ request, event.UnitRequest request ∧ earlier.ComesTo later request judged)
      (event.PinAnswer earlier later) outcomes := by
    refine path.comp came ?_ ?_
    · exact fun request _ about came => ⟨request, about, came⟩
    · exact fun _ _ _ _ => pinAnswer_of_request board
  cases answers with
  | @unitOnly report defaults unusable about =>
    obtain ⟨request, about, came⟩ := about
    have failed : event.UnitFailure earlier.validators report := by
      refine unitFailure_of_request ?_ about came
      exact unusable.imp (⟨.inl defaults, ·⟩) (⟨defaults, ·⟩)
    refine ⟨[report], [], rfl, fun _ => failed.iff_mem, ?_⟩
    rintro (nothing | named)
    · cases nothing
    · exact absurd defaults named
  | @unitFirst report items names unread about each =>
    obtain ⟨request, about, came⟩ := about
    have failed : event.UnitFailure earlier.validators report :=
      unitFailure_of_request (.inl ⟨.inr names, unread⟩) about came
    exact ⟨[report], items, rfl, fun _ => failed.iff_mem, fun _ => each⟩
  | roles usable counted each =>
    refine ⟨[], outcomes, rfl, ?_, fun _ => each⟩
    intro report
    refine ⟨?_, nofun⟩
    rintro (⟨used, given⟩ | ⟨used, unread, _, _, _⟩ | ⟨defaults, _, unknown, _⟩)
    · obtain ⟨unit, number⟩ := counted used
      exact absurd given (number.literal _)
    · obtain ⟨unit, number⟩ := counted used
      exact absurd unread number.not_unread
    · exact absurd (.inr unknown) (usable defaults)

end Event

namespace Registry

variable {registry : Registry} {event : Event} {events : List Event}

theorem process_answered (board : registry.validators.Board)
    (quiet : (registry.process event).fault = none) :
    ∃ units pins, registry.Adds (registry.process event).registry (units ++ pins) ∧
      event.Answered registry (registry.process event).registry units pins := by
  obtain ⟨outcomes, added, came⟩ := adds_handleAll quiet
  have path := Event.requests_roleByRole (stop_not_mem quiet)
  obtain ⟨units, pins, rfl, answered⟩ := Event.answered_of_roleByRole board path came
  exact ⟨units, pins, added, answered⟩

/-- A bid on a value that can be dealt with is granted, or the report of its failure is added. -/
theorem submit_answered (registry : Registry) (bid : Bid) (legible : bid.value.Legible)
    (short : ∀ unit ∈ bid.unit, unit.natAbs < Numeral.bound) :
    ∃ reached judged, registry.submit bid = ({ registry := reached }, judged.isGranted) ∧
      registry.Adds reached [judged] ∧
      ∀ report, bid.Failure registry report ↔ judged = report ∧ report.isGranted = false := by
  unfold submit claimFor
  cases parsed : Kind.parse bid.kindName with
  | error fault =>
    refine ⟨_, .refused _, rfl, adds_settle registry (.refused _), ?_⟩
    intro report
    constructor
    · rintro (unparsed | ⟨named, _⟩)
      · cases parsed.symm.trans unparsed
        exact ⟨rfl, rfl⟩
      · cases parsed.symm.trans named
    · rintro ⟨rfl, _⟩
      exact .unknown parsed
  | ok kind =>
    have going (fault : Fault) : registry.verdict (bid.claim kind) ≠ .stopped fault :=
      Claim.verdict_ne_stopped legible short fault
    have quiet : (registry.settle (registry.verdict (bid.claim kind))).fault = none := by
      cases judged : registry.verdict (bid.claim kind) with
      | stopped fault => exact absurd judged (going fault)
      | _ => rfl
    refine ⟨_, registry.verdict (bid.claim kind), ?_, adds_settle registry _, ?_⟩
    · simp only [← quiet]
    · intro report
      rw [← Claim.failure_iff going]
      constructor
      · rintro (unparsed | ⟨named, failed⟩)
        · cases parsed.symm.trans unparsed
        · cases parsed.symm.trans named
          exact failed
      · exact .claim parsed

/-- Whatever kinds are on offer, events that a registry can deal with are processed to their end,
and each of them leaves behind the reports of all that is wrong with the unit that it goes by and,
role by role, with its pins. So does a bid. What is left behind is nowhere taken back. -/
theorem allocate_reports_failures (registry : Registry) (board : registry.validators.Board)
    (events : List Event) (orderly : ∀ event ∈ events, event.Orderly registry.validators) :
    (∃ reached, registry.allocate events = .ok (reached, reached.result) ∧
      ∀ before event after, events = before ++ event :: after →
        ∃ earlier later units pins,
          registry.allocate before = .ok (earlier, earlier.result) ∧
            earlier.validators = registry.validators ∧
            earlier.process event = { registry := later } ∧ earlier.Adds later (units ++ pins) ∧
            event.Answered earlier later units pins ∧ later.Extends reached) ∧
      ∀ bid : Bid, bid.value.Legible → (∀ unit ∈ bid.unit, unit.natAbs < Numeral.bound) →
        ∃ reached judged, registry.submit bid = ({ registry := reached }, judged.isGranted) ∧
          registry.Adds reached [judged] ∧
          ∀ report, bid.Failure registry report ↔ judged = report ∧ report.isGranted = false := by
  refine ⟨⟨_, allocate_of_quiet (processAll_orderly orderly), ?_⟩, registry.submit_answered⟩
  rintro before event after rfl
  have front : (registry.processAll before).fault = none :=
    processAll_orderly fun other member => orderly other (List.mem_append_left _ member)
  have kept : (registry.processAll before).registry.validators = registry.validators :=
    (stable_validators _).handleAll _ rfl
  have own : event.Orderly (registry.processAll before).registry.validators :=
    kept ▸ orderly event (List.mem_append_right _ (List.mem_cons_self ..))
  have quiet : ((registry.processAll before).registry.process event).fault = none :=
    handleAll_harmless own.requests_harmless _
  obtain ⟨units, pins, added, answered⟩ := process_answered (kept ▸ board) quiet
  refine ⟨_, _, units, pins, allocate_of_quiet front, kept, ?_, added, answered, ?_⟩
  · rw [← quiet]
  · rw [processAll_append _ front]
    exact extends_processAll_cons quiet after

private def misnamedPin : Event :=
  { kind := .gpio, sourceId := "main", line := 1, positional := [.str "Z9"] }

private def unofferedKind : Event :=
  { kind := .adc, sourceId := "main", line := 2, positional := [.int 3] }

private def unknownLine : Event :=
  { kind := .uart, sourceId := "main", line := 3, named := [("unit", .int 7)] }

private theorem orderly_examples :
    ∀ event ∈ [misnamedPin, unofferedKind, unknownLine],
      event.Orderly (Validators.only [.gpio, .uart]) := by
  have absent : Value.nil.Legible := ⟨nofun, nofun⟩
  have number {n : Int} (short : n.natAbs < Numeral.bound) : (Value.int n).Printable :=
    List.forall_mem_singleton.mpr short
  simp only [List.forall_mem_cons]
  refine ⟨⟨?_, ?_, ?_⟩, ⟨?_, ?_, ?_⟩, ⟨?_, ?_, ?_⟩, nofun⟩
  · exact List.forall_mem_singleton.mpr ⟨nofun, none, rfl⟩
  · refine List.forall_mem_singleton.mpr ⟨nofun, ?_⟩
    rintro text ⟨⟩ port digits spelled
    cases spelled
  · exact fun _ _ _ => ⟨_, rfl⟩
  · exact List.forall_mem_singleton.mpr ⟨nofun, none, rfl⟩
  · exact List.forall_mem_singleton.mpr ⟨number (by decide +kernel), nofun⟩
  · rintro (spi | ⟨uart, _⟩)
    · cases spi
    · cases uart
  · exact List.forall_mem_singleton.mpr ⟨number (by decide +kernel), some 7, rfl⟩
  · exact List.forall_mem_cons.mpr ⟨absent, List.forall_mem_singleton.mpr absent⟩
  · exact fun _ _ _ => ⟨_, rfl⟩

/-- An event of a kind that is not on offer, between two others with something wrong. -/
theorem allocate_reports_failures_unoffered :
    let registry : Registry := { validators := .only [.gpio, .uart] }
    ∃ reached,
      registry.allocate [misnamedPin, unofferedKind, unknownLine] = .ok (reached, reached.result) ∧
        ∃ earlier later, registry.allocate [misnamedPin] = .ok (earlier, earlier.result) ∧
          earlier.process unofferedKind = { registry := later } ∧
          later.errors = earlier.errors ++
            [⟨.unknownPeripheralKind, "main:2: Unsupported peripheral: ADC", "main", some 2⟩] ∧
          later.Extends reached := by
  obtain ⟨⟨reached, processed, each⟩, _⟩ :=
    allocate_reports_failures { validators := .only [.gpio, .uart] } (Validators.board_only _) _
      orderly_examples
  obtain ⟨earlier, later, units, pins, front, kept, own, added, answered, extended⟩ :=
    each [misnamedPin] unofferedKind [unknownLine] rfl
  refine ⟨reached, processed, earlier, later, front, own, ?_, extended⟩
  have defaults : ¬unofferedKind.TakesDefaults := by
    rintro (spi | ⟨uart, _⟩)
    · cases spi
    · cases uart
  have silent : units = [] := by
    refine List.eq_nil_iff_forall_not_mem.mpr fun report said => ?_
    rcases (answered.unit report).mpr said with ⟨used, _⟩ | ⟨_, unread, _⟩ | ⟨used, _⟩
    · exact used.elim defaults fun names => by cases names.1
    · obtain ⟨value, given, present, _⟩ := unread
      cases given
      cases present
    · exact defaults used
  cases answered.roles (.inr defaults) with
  | @cons _ judged _ _ answer none =>
    cases none
    have missing : earlier.validators unofferedKind.kind = none := by
      rw [kept]
      rfl
    rw [added.errors, silent, answer.unoffered missing (.inr rfl)]
    rfl

/-- A superscript passes for a digit and is none. -/
theorem asInt?_superscript :
    (Value.str "²").asInt? = .error (.malformedNumeral "'²'") := by
  have sign : Text.isDigitSign '²' = true := by decide +kernel
  have other : Text.isDecimal '²' = false := by decide +kernel
  have quoted : String.ofList ((Text.quoted "²".toList).take 200) = "'²'" := by decide +kernel
  have trimmed : Text.trim "²".toList = ['²'] := by decide
  have bare : "²".toList.dropWhile Numeral.isMargin = ['²'] := by decide
  have span : ['²'].span Text.isDecimal = ([], ['²']) := by
    rw [List.span_eq_takeWhile_dropWhile, List.takeWhile_cons_of_neg (by simp [other]),
      List.dropWhile_cons_of_neg (by simp [other])]
  rw [Value.asInt?]
  simp only [trimmed, List.isEmpty_cons, List.all_cons, sign, Numeral.ofDigitSigns, bare, span,
    quoted]
  rfl

/-- Not every event is processed to its end: default pins are looked up in a validator that is not
on offer, and a unit of digit signs is taken for a number. -/
theorem allocate_faults :
    Registry.allocate { validators := .only [.gpio] }
        [{ kind := .spi, sourceId := "e.rb", line := 1 }] = .error .missingName ∧
      fresh.allocate
          [{ kind := .uart, sourceId := "e.rb", line := 1, named := [("unit", .str "²")] }] =
        .error (.malformedNumeral "'²'") := by
  have unread : Event.unit
      { kind := .uart, sourceId := "e.rb", line := 1, named := [("unit", .str "²")] } =
      .error (.malformedNumeral "'²'") := asInt?_superscript
  constructor
  · rfl
  · simp only [allocate, processAll, List.flatMap_singleton, Event.requests, Event.uartRequests,
      Event.uartUnitRequests, Event.unitOr, unread]
    rfl

end Registry

end PinBudget
