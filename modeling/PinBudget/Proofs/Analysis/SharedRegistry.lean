import Mathlib.Algebra.GroupWithZero.Nat
import Mathlib.Data.List.Basic
import PinBudget.Analysis.Project
import PinBudget.Proofs.Allocation.Accounting
import PinBudget.Proofs.Analysis.Conflicts
import PinBudget.Proofs.Analysis.Provenance

/-!
One registry for all sources agrees with one registry for each source and a merge of their pins.
What the merge finds as conflicts between sources, the shared registry refuses as duplicates.
-/
namespace PinBudget

namespace Conflict

variable {owners : Dict Pin Record} {entries : List (Pin × Record)}

/-- The conflict of a held pin with its owner, if it has one. -/
def against? (owners : Dict Pin Record) (entry : Pin × Record) : Option Conflict :=
  (owners.get? entry.1).map fun owner => ⟨entry.1, owner, entry.2⟩

/-- The owners of these pins, where they have some, are of other sources. -/
def Foreign (owners : Dict Pin Record) (entries : List (Pin × Record)) : Prop :=
  ∀ entry ∈ entries, ∀ owner, owners.get? entry.1 = some owner →
    owner.sourceId ≠ entry.2.sourceId

/-- The pins of one source, where the owners so far are of other sources: those that are owned are
in conflict, and the others are owned from now on. -/
theorem amongFrom_append (rest : List (Pin × Record)) (distinct : (entries.map Prod.fst).Nodup)
    (foreign : Foreign owners entries) :
    amongFrom owners (entries ++ rest) =
      entries.filterMap (against? owners) ++
        amongFrom (owners ++ entries.filter fun entry => !owners.has entry.1) rest := by
  have same : entries.filterMap (rival? owners.get?) = entries.filterMap (against? owners) := by
    apply List.filterMap_congr
    intro entry member
    rw [rival?, against?]
    cases owned : owners.get? entry.1 with
    | none => rfl
    | some owner => exact if_neg (foreign entry member owner owned)
  rw [amongFrom_append_keyed rest distinct, same]

theorem length_against (owners : Dict Pin Record) (entries : List (Pin × Record)) :
    (entries.filterMap (against? owners)).length +
      (entries.filter fun entry => !owners.has entry.1).length = entries.length := by
  induction entries with
  | nil => rfl
  | cons entry rest ih =>
    rw [List.filterMap_cons, List.filter_cons, against?, Dict.has]
    cases owners.get? entry.1 with
    | some owner =>
      simp only [Option.map_some, Option.isSome_some, Bool.not_true, Bool.false_eq_true,
        ↓reduceIte, List.length_cons]
      omega
    | none =>
      simp only [Option.map_none, Option.isSome_none, Bool.not_false, ↓reduceIte,
        List.length_cons]
      omega

end Conflict

/-- A source that was analyzed on its own, with a registry for it alone. -/
structure SoleRun where
  text : String
  sourceId : String
  extraction : Extraction
  extracted : extract text sourceId = .ok extraction
  registry : Registry
  allocation : Allocation
  allocated : Registry.fresh.allocate extraction.events = .ok (registry, allocation)

namespace SoleRun

/-- The run of a source that meets no fault. -/
def ofQuiet (text sourceId : String) (scanned : (scanSource text sourceId).fault = none)
    (quiet : (Registry.fresh.processAll (scanSource text sourceId).extraction.events).fault = none) :
    SoleRun where
  text := text
  sourceId := sourceId
  extraction := (scanSource text sourceId).extraction
  extracted := by simp [extract, scanned]
  registry := (Registry.fresh.processAll (scanSource text sourceId).extraction.events).registry
  allocation :=
    (Registry.fresh.processAll (scanSource text sourceId).extraction.events).registry.result
  allocated := Registry.allocate_eq_ok_iff.mpr ⟨quiet, rfl, rfl⟩

variable (run : SoleRun)

theorem quiet : (Registry.fresh.processAll run.extraction.events).fault = none :=
  (Registry.allocate_eq_ok_iff.mp run.allocated).1

theorem registry_eq :
    run.registry = (Registry.fresh.processAll run.extraction.events).registry :=
  (Registry.allocate_eq_ok_iff.mp run.allocated).2.1.symm

theorem result_eq : run.registry.result = run.allocation :=
  (Registry.allocate_eq_ok_iff.mp run.allocated).2.2

theorem consistent : run.registry.Consistent := by
  rw [registry_eq]
  exact Registry.stable_consistent.handleAll _ Registry.consistent_fresh

theorem pinMap_eq : run.allocation.pinMap = run.registry.pinMap := by
  rw [← run.result_eq]
  rfl

theorem distinct : (run.allocation.pinMap.map Prod.fst).Nodup := by
  rw [run.pinMap_eq, run.consistent.keys]
  exact run.consistent.distinct

theorem sourceId_of_mem : ∀ entry ∈ run.allocation.pinMap, entry.2.sourceId = run.sourceId := by
  intro entry member
  rw [run.pinMap_eq, run.consistent.indexed] at member
  obtain ⟨record, accepted, rfl⟩ := List.mem_map.mp member
  rw [run.registry_eq] at accepted
  exact Registry.of_extract run.extracted record accepted

end SoleRun

namespace Registry

variable {joint : Registry}

/-- What a source adds to a registry that other sources share: its pins, less those that are in
conflict, and an error for each conflict. -/
structure Joined (before after : Registry) (own : Allocation) : Prop where
  pinMap : after.pinMap =
    before.pinMap ++ own.pinMap.filter fun entry => !before.pinMap.has entry.1
  accepted : after.accepted.length + (own.pinMap.filterMap (Conflict.against? before.pinMap)).length =
    before.accepted.length + own.accepted.length
  errors : after.errors.length = before.errors.length + own.errors.length +
    (own.pinMap.filterMap (Conflict.against? before.pinMap)).length

theorem Consistent.length_pinMap (valid : joint.Consistent) :
    joint.pinMap.length = joint.accepted.length := by
  rw [valid.indexed, List.length_map]

/-- Requests that meet no fault on their own join those of other sources. Every decided request ends
in a record or an issue in both registries, so what is missing in records is there in issues. -/
theorem handleAll_joined {requests : List Request} (valid : joint.Consistent)
    (alone : (fresh.handleAll requests).fault = none) :
    (joint.handleAll requests).fault = none ∧
      Joined joint (joint.handleAll requests).registry
        (fresh.handleAll requests).registry.result := by
  obtain ⟨quiet, layered⟩ := (Overlay.of_fresh valid.standard).handleAll requests alone
  have ownLength := (stable_consistent.handleAll requests consistent_fresh).length_pinMap
  have length := (stable_consistent.handleAll requests valid).length_pinMap
  have total := decisions_handleAll quiet
  have ownTotal : (fresh.handleAll requests).registry.decisions =
      requests.countP (Request.isDecided Validators.standard) :=
    (decisions_handleAll alone).trans (Nat.zero_add _)
  rw [valid.standard] at total
  unfold decisions at total ownTotal
  have split := Conflict.length_against joint.pinMap (fresh.handleAll requests).registry.pinMap
  rw [layered.pinMap, List.length_append, valid.length_pinMap] at length
  have accepted : (joint.handleAll requests).registry.accepted.length +
      ((fresh.handleAll requests).registry.pinMap.filterMap
        (Conflict.against? joint.pinMap)).length =
      joint.accepted.length + (fresh.handleAll requests).registry.accepted.length := by
    omega
  refine ⟨quiet, layered.pinMap, accepted, ?_⟩
  simp only [result]
  omega

theorem processAll_joined (valid : joint.Consistent) (run : SoleRun) :
    (joint.processAll run.extraction.events).fault = none ∧
      Joined joint (joint.processAll run.extraction.events).registry run.allocation := by
  rw [← run.result_eq, run.registry_eq, processAll, valid.standard]
  exact handleAll_joined valid run.quiet

/-- What several sources with allocations of their own add to a registry that they share, and how
it compares with the merge of their pins. -/
structure Merged (before after : Registry) (own : List Allocation) : Prop where
  pins : ∀ pin, after.pinMap.get? pin =
    (before.pinMap.get? pin).or (own.findSome? fun allocation => allocation.pinMap.get? pin)
  accepted : after.accepted.length +
      (Conflict.amongFrom before.pinMap (own.flatMap Allocation.pinMap)).length =
    before.accepted.length + (own.map fun allocation => allocation.accepted.length).sum
  errors : after.errors.length =
    before.errors.length + (own.map fun allocation => allocation.errors.length).sum +
      (Conflict.amongFrom before.pinMap (own.flatMap Allocation.pinMap)).length

theorem Merged.refl (registry : Registry) : Merged registry registry [] :=
  ⟨fun _ => Option.or_none.symm, rfl, rfl⟩

theorem Merged.cons {before middle after : Registry} {own : Allocation} {rest : List Allocation}
    (distinct : (own.pinMap.map Prod.fst).Nodup)
    (foreign : Conflict.Foreign before.pinMap own.pinMap)
    (joined : Joined before middle own) (merged : Merged middle after rest) :
    Merged before after (own :: rest) := by
  have conflicts := Conflict.amongFrom_append (rest.flatMap Allocation.pinMap) distinct foreign
  rw [← joined.pinMap] at conflicts
  have count := congrArg List.length conflicts
  rw [List.length_append] at count
  refine ⟨?_, ?_, ?_⟩
  · intro pin
    rw [merged.pins, joined.pinMap, Dict.get?_append_new, Option.or_assoc, List.findSome?_cons]
    cases own.pinMap.get? pin <;> rfl
  · have first := joined.accepted
    have later := merged.accepted
    simp only [List.flatMap_cons, List.map_cons, List.sum_cons]
    omega
  · have first := joined.errors
    have later := merged.errors
    simp only [List.flatMap_cons, List.map_cons, List.sum_cons]
    omega

/-- The events of all sources, one source after the other, in one registry. -/
theorem processAll_merged (valid : joint.Consistent) (runs : List SoleRun)
    (distinct : (runs.map SoleRun.sourceId).Nodup)
    (foreign : ∀ run ∈ runs, ∀ entry ∈ joint.pinMap, entry.2.sourceId ≠ run.sourceId) :
    (joint.processAll (runs.flatMap fun run => run.extraction.events)).fault = none ∧
      Merged joint (joint.processAll (runs.flatMap fun run => run.extraction.events)).registry
        (runs.map SoleRun.allocation) := by
  induction runs generalizing joint with
  | nil => exact ⟨rfl, Merged.refl joint⟩
  | cons run rest ih =>
    obtain ⟨quiet, joined⟩ := processAll_joined valid run
    obtain ⟨other, distinctRest⟩ := List.nodup_cons.mp distinct
    have against : Conflict.Foreign joint.pinMap run.allocation.pinMap := by
      intro entry member owner found
      rw [run.sourceId_of_mem entry member]
      exact foreign run (List.mem_cons_self ..) _ (Dict.mem_of_get? found)
    have foreignRest : ∀ next ∈ rest, ∀ entry ∈
        (joint.processAll run.extraction.events).registry.pinMap,
        entry.2.sourceId ≠ next.sourceId := by
      intro next later entry member
      rw [joined.pinMap] at member
      rcases List.mem_append.mp member with earlier | own
      · exact foreign next (List.mem_cons_of_mem _ later) entry earlier
      · rw [run.sourceId_of_mem entry (List.mem_filter.mp own).1]
        intro same
        exact other (List.mem_map.mpr ⟨next, later, same.symm⟩)
    obtain ⟨quietRest, merged⟩ := ih (stable_consistent.handleAll _ valid) distinctRest foreignRest
    rw [List.flatMap_cons, processAll_append _ quiet]
    exact ⟨quietRest, Merged.cons run.distinct against joined merged⟩

/-- One registry for all sources agrees with one registry for each source and the merge of their
pins, for sources with different names. It has the errors of all of them and one for each conflict,
and it lacks as many records as there are conflicts. Each pin is with the record of the first source
that has it. So nothing is refused exactly when no source was refused anything and there are no
conflicts. -/
theorem allocate_shared (runs : List SoleRun) (distinct : (runs.map SoleRun.sourceId).Nodup) :
    ∃ after shared,
      fresh.allocate (runs.flatMap fun run => run.extraction.events) = .ok (after, shared) ∧
      let own := runs.map SoleRun.allocation
      let conflicts := Conflict.among own
      shared.errors.length =
        (own.map fun allocation => allocation.errors.length).sum + conflicts.length ∧
      shared.accepted.length + conflicts.length =
        (own.map fun allocation => allocation.accepted.length).sum ∧
      (∀ pin, shared.pinMap.get? pin =
        own.findSome? fun allocation => allocation.pinMap.get? pin) ∧
      (shared.ok = true ↔ (∀ allocation ∈ own, allocation.ok = true) ∧ conflicts = []) := by
  obtain ⟨quiet, merged⟩ := processAll_merged consistent_fresh runs distinct
    fun _ _ _ member => absurd member List.not_mem_nil
  refine ⟨_, _, allocate_eq_ok_iff.mpr ⟨quiet, rfl, rfl⟩, ?_⟩
  have errors := merged.errors
  have accepted := merged.accepted
  rw [List.length_nil, Nat.zero_add] at errors accepted
  refine ⟨errors, accepted, merged.pins, ?_⟩
  rw [Allocation.ok_iff_length]
  change (fresh.processAll (runs.flatMap fun run => run.extraction.events)).registry.errors.length
    = 0 ↔ _
  rw [errors, Nat.add_eq_zero_iff, List.length_eq_zero_iff, List.sum_eq_zero_iff_forall_eq_nat,
    List.forall_mem_map]
  simp only [Allocation.ok_iff_length]
  rfl

/-- Two sources that are free of errors on their own and claim one pin. -/
theorem allocate_shared_conflict :
    let led := SoleRun.ofQuiet "led = GPIO.new(5)" "led.rb" (by decide +kernel) (by decide +kernel)
    let fan := SoleRun.ofQuiet "fan = PWM.new(pin: 5)" "fan.rb" (by decide +kernel)
      (by decide +kernel)
    ([led, fan].map SoleRun.sourceId).Nodup ∧ ∃ after shared,
      fresh.allocate ([led, fan].flatMap fun run => run.extraction.events) = .ok (after, shared) ∧
        shared.errors.length = 1 := by
  intro led fan
  have distinct : ([led, fan].map SoleRun.sourceId).Nodup := by decide +kernel
  obtain ⟨after, shared, allocated, errors, _⟩ := allocate_shared [led, fan] distinct
  refine ⟨distinct, after, shared, allocated, errors.trans ?_⟩
  decide +kernel

end Registry

end PinBudget
