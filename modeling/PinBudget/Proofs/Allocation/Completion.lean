import Mathlib.Data.List.TakeDrop
import PinBudget.Proofs.Allocation.Invariant
import PinBudget.Proofs.Allocation.Legible

/-!
Processing goes on after every failure. Events whose values a registry can deal with are processed
to their end, whatever validators are on offer.
-/
namespace PinBudget

/-- A request that no registry stops at. -/
inductive Request.Harmless : Request → Prop where
  | claim {claim : Claim} (legible : claim.value.Legible)
      (short : ∀ unit ∈ claim.unit, unit.natAbs < Numeral.bound) : Harmless (.claim claim)
  | note (warning : String) : Harmless (.note warning)
  | issue (issue : Issue) : Harmless (.issue issue)

namespace Claim

variable {claim : Claim} {offered : Option Validator} {held : Dict Pin Record}

theorem unitFault?_none (short : ∀ unit ∈ claim.unit, unit.natAbs < Numeral.bound)
    (entry : Capability) : claim.unitFault? entry = none := by
  unfold unitFault?
  split
  · rename_i unit _ asked
    obtain ⟨text, shown⟩ := Value.exists_shown_int (short unit asked)
    split
    · rfl
    · rw [shown]
  · rfl

theorem verdict_ne_stopped (legible : claim.value.Legible)
    (short : ∀ unit ∈ claim.unit, unit.natAbs < Numeral.bound) (fault : Fault) :
    claim.verdict offered held ≠ .stopped fault := by
  intro stopped
  unfold verdict at stopped
  split at stopped
  · cases stopped
  · split at stopped
    · obtain ⟨text, shown⟩ := Value.exists_outline legible.printable
      rw [uncheckedVerdict, shown] at stopped
      cases stopped
    · split at stopped
      · rename_i failed
        obtain ⟨reason, rfl⟩ := Pin.ofValue_error legible failed
        cases stopped
      · split at stopped
        · cases stopped
        · unfold validated at stopped
          split at stopped
          · rw [unitFault?_none short] at stopped
            cases stopped
          · cases stopped

end Claim

namespace Registry

variable {registry : Registry} {request : Request} {requests : List Request}

theorem handle_harmless (harmless : request.Harmless) (registry : Registry) :
    (registry.handle request).fault = none := by
  cases harmless with
  | note warning => rfl
  | issue issue => rfl
  | @claim claim legible short =>
    rw [Registry.handle, Registry.claim]
    cases judged : registry.verdict claim with
    | stopped fault => exact absurd judged (Claim.verdict_ne_stopped legible short fault)
    | _ => rfl

theorem handleAll_harmless (harmless : ∀ request ∈ requests, request.Harmless)
    (registry : Registry) : (registry.handleAll requests).fault = none := by
  induction requests generalizing registry with
  | nil => rfl
  | cons request rest ih =>
    obtain ⟨first, others⟩ := List.forall_mem_cons.mp harmless
    rw [handleAll_cons_quiet (handle_harmless first registry)]
    exact ih others _

end Registry

namespace Event

variable {event : Event} {validators : Validators}

/-- The values that can stand for the event's unit: the argument of that name, and what a UART
begins with. -/
def unitValues (event : Event) : List Value :=
  event.namedValue "unit" :: if event.kind = .uart then event.positional.take 1 else []

/-- The values that can stand for the event's pins. -/
def pinValues (event : Event) : List Value :=
  (event.kind.pinRoles.map fun role => event.argument role.position (some role.name)) ++
    if event.kind = .uart then event.positional.take 1 else []

/-- The event leaves its pins to the defaults of its unit. -/
def TakesDefaults (event : Event) : Prop :=
  event.usesSpiDefaults = true ∨
    event.kind = .uart ∧ (event.namedValue "txd_pin").isNil = true ∧
      (event.namedValue "rxd_pin").isNil = true ∧
      (event.positional = [] ∨ event.unitArgument ≠ .ok .nil)

/-- An event that a registry can deal with: the unit is a number if it looks like one, the values
can be read and shown, and where default pins are looked up, there is a validator to ask for
them. -/
structure Orderly (validators : Validators) (event : Event) : Prop where
  unit : ∀ value ∈ event.unitValues, value.Printable ∧ ∃ number, value.asInt? = .ok number
  pins : ∀ value ∈ event.pinValues, value.Legible
  defaults : event.TakesDefaults → ∀ unit, event.unitOr 1 = .number unit →
    ∃ validator, validators event.kind = some validator

namespace Orderly

theorem unitArgument (orderly : event.Orderly validators) :
    ∃ value, event.unitArgument = .ok value ∧ value.Printable ∧
      ∃ number, value.asInt? = .ok number := by
  have absent : Value.nil.Printable ∧ ∃ number, Value.nil.asInt? = .ok number :=
    ⟨nofun, none, rfl⟩
  unfold Event.unitArgument
  simp only
  split
  · exact ⟨_, rfl, orderly.unit _ (List.mem_cons_self ..)⟩
  · split
    · rename_i first rest uart positional
      have own := orderly.unit first (by simp [unitValues, uart, positional])
      obtain ⟨number, read⟩ := own.2
      rw [read]
      cases number with
      | none => exact ⟨.nil, rfl, absent⟩
      | some n => exact ⟨first, rfl, own⟩
    · exact ⟨.nil, rfl, absent⟩

theorem exists_unit (orderly : event.Orderly validators) :
    ∃ unit, event.unit = .ok unit ∧ ∀ n ∈ unit, n.natAbs < Numeral.bound := by
  obtain ⟨value, given, printable, number, read⟩ := orderly.unitArgument
  refine ⟨number, ?_, ?_⟩
  · rw [Event.unit, given]
    exact read
  · rintro n ⟨⟩
    exact Value.lt_bound_of_asInt? printable read

/-- The unit of an event that a registry can deal with is a number that can be shown, or the reason
why there is none is reported. -/
theorem unitOr (orderly : event.Orderly validators) :
    (∃ unit, event.unitOr 1 = .number unit ∧ unit.natAbs < Numeral.bound) ∨
      ∃ reason, event.unitOr 1 = .unusable reason ∧ reason.Harmless := by
  obtain ⟨value, given, printable, number, read⟩ := orderly.unitArgument
  have own : event.unit = .ok number := by
    rw [Event.unit, given]
    exact read
  obtain ⟨text, shown⟩ := Value.exists_shown value printable
  unfold Event.unitOr
  rw [given, own]
  split
  · cases ‹Except.ok value = Except.error _›
  · exact .inl ⟨1, rfl, by decide +kernel⟩
  · rename_i raw _ same
    cases same
    cases number with
    | some unit => exact .inl ⟨unit, rfl, Value.lt_bound_of_asInt? printable read⟩
    | none =>
      refine .inr ?_
      simp only
      split
      · exact ⟨_, rfl, .note _⟩
      · rw [shown]
        exact ⟨_, rfl, .issue _⟩

theorem missingPin_harmless (event : Event) (role : Option String) :
    (event.missingPin role).Harmless :=
  .note _

theorem unknownUnit_harmless (event : Event) {unit : Int} (short : unit.natAbs < Numeral.bound) :
    (event.unknownUnit unit).Harmless := by
  obtain ⟨text, shown⟩ := Value.exists_shown_int short
  unfold unknownUnit
  split
  · rename_i failed
    rw [shown] at failed
    cases failed
  · exact .issue _

theorem claimRequest_pin_harmless (event : Event) (pin : Pin) (role : Option String) {unit : Int}
    (short : unit.natAbs < Numeral.bound) :
    (event.claimRequest (.pin pin) role (some unit)).Harmless := by
  refine .claim ⟨nofun, nofun⟩ ?_
  rintro _ ⟨⟩
  exact short

theorem roleRequest (orderly : event.Orderly validators) {role : PinRole}
    (own : role ∈ event.kind.pinRoles) : (event.roleRequest role).Harmless := by
  obtain ⟨unit, read, short⟩ := orderly.exists_unit
  have legible := orderly.pins _ (List.mem_append_left _ (List.mem_map.mpr ⟨role, own, rfl⟩))
  unfold Event.roleRequest
  simp only [read]
  split
  · exact missingPin_harmless event role.role
  · exact .claim legible short

theorem spiRequests (orderly : event.Orderly validators) (defaults : event.usesSpiDefaults = true)
    (kind : event.kind = .spi) :
    ∀ request ∈ event.spiRequests validators, request.Harmless := by
  unfold Event.spiRequests
  rcases orderly.unitOr with ⟨unit, number, short⟩ | ⟨reason, unusable, harmless⟩
  · obtain ⟨validator, offered⟩ := orderly.defaults (.inl defaults) unit number
    rw [kind] at offered
    simp only [number, offered]
    split
    · simpa using unknownUnit_harmless event short
    · simp only [List.mem_cons, List.not_mem_nil, or_false]
      rintro request (rfl | rfl | rfl) <;> exact claimRequest_pin_harmless event _ _ short
  · simpa [unusable] using harmless

theorem lineRequest {event : Event} {value : Value} (legible : value.Legible) (role : String)
    {unit : Option Int} (short : ∀ n ∈ unit, n.natAbs < Numeral.bound) :
    (event.lineRequest role value unit).Harmless := by
  unfold Event.lineRequest
  split
  · exact missingPin_harmless event (some role)
  · exact .claim legible short

theorem uartUnitRequests (orderly : event.Orderly validators) (kind : event.kind = .uart)
    (unit : event.positional = [] ∨ event.unitArgument ≠ .ok .nil ∨
      ((event.namedValue "txd_pin").isNil && (event.namedValue "rxd_pin").isNil) = false) :
    ∀ request ∈ event.uartUnitRequests validators, request.Harmless := by
  have txd : (event.namedValue "txd_pin").Legible := orderly.pins _ (by
    rw [pinValues, kind]
    exact List.mem_append_left _ (List.mem_cons_self ..))
  have rxd : (event.namedValue "rxd_pin").Legible := orderly.pins _ (by
    rw [pinValues, kind]
    exact List.mem_append_left _ (List.mem_cons_of_mem _ (List.mem_cons_self ..)))
  unfold Event.uartUnitRequests
  rcases orderly.unitOr with ⟨number, chosen, short⟩ | ⟨reason, unusable, harmless⟩
  · have shortUnit : ∀ n ∈ some number, n.natAbs < Numeral.bound := by
      rintro n ⟨⟩
      exact short
    simp only [chosen]
    split
    · rename_i unnamed
      simp only [Bool.and_eq_true] at unnamed
      have defaults : event.TakesDefaults := by
        refine .inr ⟨kind, unnamed.1, unnamed.2, ?_⟩
        simpa [unnamed] using unit
      obtain ⟨validator, offered⟩ := orderly.defaults defaults number chosen
      rw [kind] at offered
      unfold Event.uartDefaultRequests
      simp only [offered]
      split
      · simpa using unknownUnit_harmless event short
      · simp only [List.mem_cons, List.not_mem_nil, or_false]
        rintro request (rfl | rfl) <;> exact claimRequest_pin_harmless event _ _ short
    · simp only [List.mem_cons, List.not_mem_nil, or_false]
      rintro request (rfl | rfl)
      · exact lineRequest txd "TXD" shortUnit
      · exact lineRequest rxd "RXD" shortUnit
  · simp only [unusable]
    split
    · simpa using harmless
    · simp only [List.mem_cons, List.not_mem_nil, or_false]
      rintro request (rfl | rfl | rfl)
      · exact harmless
      · exact lineRequest txd "TXD" nofun
      · exact lineRequest rxd "RXD" nofun

theorem uartRequests (orderly : event.Orderly validators) (kind : event.kind = .uart) :
    ∀ request ∈ event.uartRequests validators, request.Harmless := by
  obtain ⟨value, given, _⟩ := orderly.unitArgument
  unfold Event.uartRequests
  split
  · rename_i first rest positional
    split
    · rw [given]
      split
      · cases ‹Except.ok value = Except.error _›
      · have legible : first.Legible := orderly.pins first (by simp [pinValues, kind, positional])
        exact List.forall_mem_singleton.mpr (.claim legible nofun)
      · rename_i raw present same
        refine orderly.uartUnitRequests kind (.inr (.inl ?_))
        rintro absent
        rw [given, same] at absent
        exact present (Except.ok.inj absent)
    · rename_i named
      exact orderly.uartUnitRequests kind (.inr (.inr (by simpa using named)))
  · rename_i empty
    exact orderly.uartUnitRequests kind (.inl empty)

/-- No registry stops at what an event asks that it can deal with. -/
theorem requests_harmless (orderly : event.Orderly validators) :
    ∀ request ∈ event.requests validators, request.Harmless := by
  unfold Event.requests
  split
  · exact orderly.uartRequests ‹_›
  · split
    · rename_i defaults
      have kind : event.kind = .spi := by
        simp only [usesSpiDefaults, Bool.and_eq_true, beq_iff_eq] at defaults
        exact defaults.1.1
      exact orderly.spiRequests defaults kind
    · intro request member
      obtain ⟨role, own, rfl⟩ := List.mem_map.mp member
      exact orderly.roleRequest own

end Orderly

end Event

namespace Registry

variable {registry : Registry} {events : List Event}

theorem processAll_orderly (orderly : ∀ event ∈ events, event.Orderly registry.validators) :
    (registry.processAll events).fault = none := by
  refine handleAll_harmless ?_ registry
  intro request member
  obtain ⟨event, own, asked⟩ := List.mem_flatMap.mp member
  exact (orderly event own).requests_harmless request asked

theorem allocate_of_quiet (quiet : (registry.processAll events).fault = none) :
    registry.allocate events =
      .ok ((registry.processAll events).registry, (registry.processAll events).registry.result) := by
  rw [allocate]
  simp only [quiet]

theorem extends_processAll_cons {event : Event} (quiet : (registry.process event).fault = none)
    (rest : List Event) :
    (registry.process event).registry.Extends (registry.processAll (event :: rest)).registry := by
  rw [processAll, List.flatMap_cons, handleAll_append _ quiet]
  exact (stable_extends _).handleAll _ (Extends.refl _)

end Registry

end PinBudget
