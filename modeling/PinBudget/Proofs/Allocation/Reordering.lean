import PinBudget.Proofs.Allocation.Accounting

/-!
The order of events does not matter to the verdict. Who holds a contested pin may change, and with
it the errors, but neither which pins are held nor how many errors there are.
-/
namespace PinBudget

/-- The same pins are held, with the same number of records and of errors. -/
structure Allocation.SameVerdict (one other : Allocation) : Prop where
  pins : ∀ pin, one.pinMap.has pin = other.pinMap.has pin
  accepted : one.accepted.length = other.accepted.length
  errors : one.errors.length = other.errors.length
  ok : one.ok = other.ok

theorem Allocation.ok_of_length {one other : Allocation}
    (same : one.errors.length = other.errors.length) : one.ok = other.ok := by
  rw [Bool.eq_iff_iff, ok_iff_length, ok_iff_length, same]

namespace Registry

variable {registry one other : Registry} {events first second : List Event}

/-- An event that meets no fault on a fresh registry meets none on any other. -/
theorem process_quiet {event : Event} (board : registry.validators = Validators.standard)
    (alone : (fresh.process event).fault = none) : (registry.process event).fault = none := by
  unfold process at *
  rw [board]
  exact ((Overlay.of_fresh board).handleAll _ alone).1

theorem processAll_singleton (event : Event) :
    registry.processAll [event] = registry.process event := by
  simp [processAll, process]

theorem processAll_quiet (board : registry.validators = Validators.standard)
    (alone : ∀ event ∈ events, (fresh.process event).fault = none) :
    (registry.processAll events).fault = none := by
  induction events generalizing registry with
  | nil => rfl
  | cons event rest ih =>
    have quiet := process_quiet board (alone event (List.mem_cons_self ..))
    rw [← processAll_singleton] at quiet
    have kept : (registry.processAll [event]).registry.validators = registry.validators :=
      (stable_validators _).handleAll _ rfl
    rw [← List.singleton_append, processAll_append rest quiet]
    exact ih (kept.trans board) fun event member => alone event (List.mem_cons_of_mem _ member)

theorem Consistent.length_accepted (valid : one.Consistent) (alsoValid : other.Consistent)
    (same : ∀ pin, one.pinMap.has pin = true ↔ other.pinMap.has pin = true) :
    one.accepted.length = other.accepted.length := by
  have pins : (one.accepted.map Record.pin).Perm (other.accepted.map Record.pin) := by
    apply (List.perm_ext_iff_of_nodup valid.distinct alsoValid.distinct).mpr
    intro pin
    rw [← valid.keys, ← alsoValid.keys, ← Dict.has_iff_mem_keys, ← Dict.has_iff_mem_keys]
    exact same pin
  simpa using pins.length_eq

/-- What a run comes to does not depend on the order of its requests. -/
theorem handleAll_perm {requests reordered : List Request} (valid : registry.Consistent)
    (perm : requests.Perm reordered) (quiet : (registry.handleAll requests).fault = none)
    (alsoQuiet : (registry.handleAll reordered).fault = none) :
    (registry.handleAll requests).registry.result.SameVerdict
      (registry.handleAll reordered).registry.result := by
  have pins (pin : Pin) : (registry.handleAll requests).registry.pinMap.has pin = true ↔
      (registry.handleAll reordered).registry.pinMap.has pin = true := by
    rw [has_handleAll quiet, has_handleAll alsoQuiet]
    simp only [perm.mem_iff]
  have accepted := (stable_consistent.handleAll requests valid).length_accepted
    (stable_consistent.handleAll reordered valid) pins
  have total := decisions_handleAll quiet
  have alsoTotal := decisions_handleAll alsoQuiet
  rw [← perm.countP_eq] at alsoTotal
  unfold decisions at total alsoTotal
  have errors : (registry.handleAll requests).registry.errors.length =
      (registry.handleAll reordered).registry.errors.length := by
    omega
  exact ⟨fun pin => Bool.eq_iff_iff.mpr (pins pin), accepted, errors,
    Allocation.ok_of_length errors⟩

/-- The order of events does not matter to the verdict. Events that meet no fault one by one have a
result in every order; and two orders that have results agree on which pins are held, on the number
of records, on the number of errors, and on whether there is an error at all. -/
theorem allocate_perm (reordered : first.Perm second) :
    ((∀ event ∈ first, (fresh.process event).fault = none) →
      (∃ result, fresh.allocate first = .ok result) ∧
        ∃ result, fresh.allocate second = .ok result) ∧
    ∀ one other, fresh.allocate first = .ok one → fresh.allocate second = .ok other →
      one.2.SameVerdict other.2 := by
  refine ⟨?_, ?_⟩
  · intro alone
    have alsoAlone : ∀ event ∈ second, (fresh.process event).fault = none :=
      fun event member => alone event (reordered.mem_iff.mpr member)
    exact ⟨⟨_, allocate_eq_ok_iff.mpr ⟨processAll_quiet rfl alone, rfl, rfl⟩⟩,
      ⟨_, allocate_eq_ok_iff.mpr ⟨processAll_quiet rfl alsoAlone, rfl, rfl⟩⟩⟩
  · rintro ⟨one, allocation⟩ ⟨other, alternative⟩ allocated alsoAllocated
    obtain ⟨quiet, rfl, rfl⟩ := allocate_eq_ok_iff.mp allocated
    obtain ⟨alsoQuiet, rfl, rfl⟩ := allocate_eq_ok_iff.mp alsoAllocated
    exact handleAll_perm consistent_fresh (reordered.flatMap_right _) quiet alsoQuiet

/-- The losing claim on a pin is a duplicate in one order and unsupported in the other. -/
theorem allocate_perm_contested :
    let gpio : Event := { kind := .gpio, sourceId := "main", line := 1, positional := [.int 2] }
    let adc : Event := { kind := .adc, sourceId := "main", line := 2, positional := [.str "A2"] }
    [gpio, adc].Perm [adc, gpio] ∧ (∀ event ∈ [gpio, adc], (fresh.process event).fault = none) ∧
      ∃ one other, fresh.allocate [gpio, adc] = .ok one ∧ fresh.allocate [adc, gpio] = .ok other ∧
        one.2.SameVerdict other.2 := by
  intro gpio adc
  have reordered : [gpio, adc].Perm [adc, gpio] := .swap _ _ _
  have alone : ∀ event ∈ [gpio, adc], (fresh.process event).fault = none := by
    simp only [List.forall_mem_cons]
    exact ⟨rfl, rfl, List.forall_mem_nil _⟩
  obtain ⟨⟨one, allocated⟩, other, alsoAllocated⟩ := (allocate_perm reordered).1 alone
  exact ⟨reordered, alone, one, other, allocated, alsoAllocated,
    (allocate_perm reordered).2 one other allocated alsoAllocated⟩

end Registry

end PinBudget
