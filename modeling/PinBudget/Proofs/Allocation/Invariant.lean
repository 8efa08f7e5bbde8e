import PinBudget.Allocation.Session
import PinBudget.Proofs.Allocation.Verdict

/-!
The invariant of registries over whole sessions: the pin map and the list of granted claims say the
same, no pin is granted twice, and every granted pin serves its kind. Between resets a registry only
grows.
-/
namespace PinBudget

/-- The record's pin serves its kind and, where roles play a part, the record's role. -/
structure Record.Supported (record : Record) : Prop where
  listed : ∃ entry, entry ∈ (Validator.standard record.kind).entries record.pin
  fitting : record.kind ≠ .gpio → ∀ role, record.function = some role →
    ∃ entry ∈ (Validator.standard record.kind).entries record.pin,
      entry.function = none ∨
        entry.function = some ((Validator.standard record.kind).canonicalRole role)

/-- A record takes its role from the claim, or else from the granted entry; either way the entry can
take that role. -/
theorem Claim.record_supported {claim : Claim} {pin : Pin} {entry : Capability} (info : String)
    (granted : ((Validator.standard claim.kind).validate pin claim.line claim.function).Grants
      entry) :
    (claim.record (Validator.standard claim.kind) pin entry info).Supported := by
  obtain ⟨own, able⟩ := Validator.mem_of_validate granted
  refine ⟨⟨entry, own⟩, ?_⟩
  intro roles role named
  refine ⟨entry, own, ?_⟩
  have inherited (same : entry.function = some role) :
      entry.function = some ((Validator.standard claim.kind).canonicalRole role) := by
    rw [Validator.canonicalRole_of_mem_entries own same, same]
  cases asked : claim.function with
  | none =>
    simp only [record, asked] at named
    exact .inr (inherited named)
  | some wanted =>
    rw [asked] at able
    cases blank : wanted.isEmpty with
    | true =>
      simp only [record, asked, Option.filter_some, blank] at named
      exact .inr (inherited named)
    | false =>
      simp only [record, asked, Option.filter_some, blank] at named
      cases named
      exact Validator.function_of_mem_matching (able roles)

namespace Registry

variable {registry old middle new : Registry} {record : Record}

/-- The representation invariant of a registry with the board's own validators. -/
structure Consistent (registry : Registry) : Prop where
  standard : registry.validators = Validators.standard
  distinct : (registry.accepted.map Record.pin).Nodup
  indexed : registry.pinMap = registry.accepted.map fun record => (record.pin, record)
  supported : ∀ record ∈ registry.accepted, record.Supported

/-- What a registry may do between resets: its lists grow at their ends, and a pin that is held
stays with its holder. -/
structure Extends (old new : Registry) : Prop where
  accepted : old.accepted <+: new.accepted
  errors : old.errors <+: new.errors
  warnings : old.warnings <+: new.warnings
  kept : ∀ pin record, old.pinMap.get? pin = some record → new.pinMap.get? pin = some record

theorem Extends.refl (registry : Registry) : registry.Extends registry :=
  ⟨List.prefix_refl _, List.prefix_refl _, List.prefix_refl _, fun _ _ found => found⟩

theorem Extends.trans (first : old.Extends middle) (second : middle.Extends new) :
    old.Extends new where
  accepted := first.accepted.trans second.accepted
  errors := first.errors.trans second.errors
  warnings := first.warnings.trans second.warnings
  kept := fun pin record found => second.kept pin record (first.kept pin record found)

theorem extends_addError (registry : Registry) (issue : Issue) :
    registry.Extends (registry.addError issue) :=
  ⟨List.prefix_refl _, List.prefix_append _ _, List.prefix_refl _, fun _ _ found => found⟩

theorem extends_addWarnings (registry : Registry) (warnings : List String) :
    registry.Extends (registry.addWarnings warnings) :=
  ⟨List.prefix_refl _, List.prefix_refl _, List.prefix_append _ _, fun _ _ found => found⟩

theorem pinMap_grant (free : registry.pinMap.get? record.pin = none) :
    (registry.grant record).pinMap = registry.pinMap ++ [(record.pin, record)] :=
  Dict.set_of_absent free

theorem extends_grant (free : registry.pinMap.get? record.pin = none) :
    registry.Extends (registry.grant record) := by
  refine ⟨List.prefix_append _ _, List.prefix_refl _, List.prefix_refl _, ?_⟩
  intro pin holder found
  rw [pinMap_grant free]
  exact Dict.get?_of_prefix (List.prefix_append _ _) found

theorem validators_settle (judged : Verdict) :
    (registry.settle judged).registry.validators = registry.validators := by
  cases judged <;> rfl

theorem pinMap_settle {judged : Verdict} (refused : judged.isGranted = false) :
    (registry.settle judged).registry.pinMap = registry.pinMap := by
  cases judged with
  | accepted record warnings => cases refused
  | _ => rfl

theorem consistent_fresh : fresh.Consistent :=
  ⟨rfl, List.nodup_nil, rfl, fun _ member => absurd member List.not_mem_nil⟩

theorem Consistent.addError (valid : registry.Consistent) (issue : Issue) :
    (registry.addError issue).Consistent :=
  ⟨valid.standard, valid.distinct, valid.indexed, valid.supported⟩

theorem Consistent.addWarnings (valid : registry.Consistent) (warnings : List String) :
    (registry.addWarnings warnings).Consistent :=
  ⟨valid.standard, valid.distinct, valid.indexed, valid.supported⟩

theorem Consistent.keys (valid : registry.Consistent) :
    registry.pinMap.map Prod.fst = registry.accepted.map Record.pin := by
  rw [valid.indexed, List.map_map]
  rfl

theorem Consistent.grant (valid : registry.Consistent)
    (free : registry.pinMap.get? record.pin = none) (able : record.Supported) :
    (registry.grant record).Consistent := by
  have missing : record.pin ∉ registry.accepted.map Record.pin := by
    rw [← valid.keys]
    exact Dict.get?_eq_none_iff.mp free
  refine ⟨valid.standard, ?_, ?_, ?_⟩
  · rw [Registry.grant, List.map_append]
    exact (List.perm_append_singleton _ _).nodup_iff.mpr
      (List.nodup_cons.mpr ⟨missing, valid.distinct⟩)
  · rw [pinMap_grant free, valid.indexed]
    simp [Registry.grant]
  · intro other member
    rcases List.mem_append.mp member with earlier | latest
    · exact valid.supported other earlier
    · rw [List.mem_singleton.mp latest]
      exact able

/-- A property that survives everything a registry can write down: the record of a granted claim, an
issue, and warnings. -/
structure Stable (P : Registry → Prop) : Prop where
  grant : ∀ registry claim record warnings, registry.verdict claim = .accepted record warnings →
    P registry → P (registry.grant record)
  addError : ∀ registry issue, P registry → P (registry.addError issue)
  addWarnings : ∀ registry warnings, P registry → P (registry.addWarnings warnings)

variable {P : Registry → Prop}

theorem Stable.claim (stable : Stable P) (holds : P registry) (claim : Claim) :
    P (registry.claim claim).registry := by
  unfold Registry.claim
  cases judged : registry.verdict claim with
  | accepted record warnings =>
    exact stable.addWarnings _ _ (stable.grant _ _ _ _ judged holds)
  | refused issue => exact stable.addError _ _ holds
  | unchecked warning => exact stable.addWarnings _ _ holds
  | stopped fault => exact holds

theorem Stable.handle (stable : Stable P) (holds : P registry) (request : Request) :
    P (registry.handle request).registry := by
  cases request with
  | claim claim => exact stable.claim holds claim
  | note warning => exact stable.addWarnings _ _ holds
  | issue issue => exact stable.addError _ _ holds
  | stop fault => exact holds

theorem handleAll_cons_fault {request : Request} {rest : List Request} {fault : Fault}
    (stopped : (registry.handle request).fault = some fault) :
    registry.handleAll (request :: rest) = registry.handle request := by
  rw [Registry.handleAll]
  simp [stopped]

theorem handleAll_cons_quiet {request : Request} {rest : List Request}
    (quiet : (registry.handle request).fault = none) :
    registry.handleAll (request :: rest) = (registry.handle request).registry.handleAll rest := by
  rw [Registry.handleAll]
  simp [quiet]

theorem handle_quiet {request : Request} {rest : List Request}
    (quiet : (registry.handleAll (request :: rest)).fault = none) :
    (registry.handle request).fault = none := by
  cases met : (registry.handle request).fault with
  | none => rfl
  | some fault =>
    rw [handleAll_cons_fault met, met] at quiet
    cases quiet

theorem handleAll_append {front : List Request} (back : List Request)
    (quiet : (registry.handleAll front).fault = none) :
    registry.handleAll (front ++ back) = (registry.handleAll front).registry.handleAll back := by
  induction front generalizing registry with
  | nil => rfl
  | cons request rest ih =>
    have first := handle_quiet quiet
    rw [handleAll_cons_quiet first] at quiet
    rw [List.cons_append, handleAll_cons_quiet first, handleAll_cons_quiet first, ih quiet]

theorem Stable.handleAll (stable : Stable P) (requests : List Request) (holds : P registry) :
    P (registry.handleAll requests).registry := by
  induction requests generalizing registry with
  | nil => exact holds
  | cons request rest ih =>
    cases met : (registry.handle request).fault with
    | some fault =>
      rw [handleAll_cons_fault met]
      exact stable.handle holds request
    | none =>
      rw [handleAll_cons_quiet met]
      exact ih (stable.handle holds request)

theorem Stable.submit (stable : Stable P) (holds : P registry) (bid : Bid) :
    P (registry.submit bid).1.registry := by
  unfold Registry.submit Registry.claimFor
  split
  · exact stable.addError _ _ holds
  · exact stable.claim holds _

theorem afterBids_cons (bid : Bid) (rest : List Bid) :
    registry.afterBids (bid :: rest) = (registry.submit bid).1.registry.afterBids rest := by
  simp only [Registry.afterBids, List.foldl_cons]

theorem Stable.afterBids (stable : Stable P) (bids : List Bid) (holds : P registry) :
    P (registry.afterBids bids) := by
  induction bids generalizing registry with
  | nil => exact holds
  | cons bid rest ih =>
    rw [afterBids_cons]
    exact ih (stable.submit holds bid)

theorem Stable.answer (stable : Stable P) (holds : P registry) {call : Call}
    (goesOn : call ≠ .reset) : P (registry.answer call).registry := by
  cases call with
  | bid bid =>
    rw [Registry.answer]
    exact stable.submit holds bid
  | event event =>
    rw [Registry.answer, Registry.process]
    exact stable.handleAll _ holds
  | events events =>
    rw [Registry.answer, Registry.processAll]
    exact stable.handleAll _ holds
  | reset => exact absurd rfl goesOn

/-- A granted pin was free, and with the board's own validators it serves its kind. -/
theorem verdict_accepted {claim : Claim} {warnings : List String}
    (granted : registry.verdict claim = .accepted record warnings) :
    registry.pinMap.get? record.pin = none ∧
      (registry.validators = Validators.standard → record.Supported) := by
  obtain ⟨_, free, validator, entry, info, offered, grants, same⟩ := Claim.verdict_accepted granted
  refine ⟨free, ?_⟩
  intro board
  rw [board] at offered
  cases offered
  rw [same]
  exact Claim.record_supported info grants

theorem stable_consistent : Stable Consistent where
  grant := by
    intro registry claim record warnings granted valid
    obtain ⟨free, able⟩ := verdict_accepted granted
    exact valid.grant free (able valid.standard)
  addError := fun _ issue valid => valid.addError issue
  addWarnings := fun _ warnings valid => valid.addWarnings warnings

theorem stable_validators (validators : Validators) :
    Stable fun registry => registry.validators = validators where
  grant := fun _ _ _ _ _ same => same
  addError := fun _ _ same => same
  addWarnings := fun _ _ same => same

theorem processAll_append {front : List Event} (back : List Event)
    (quiet : (registry.processAll front).fault = none) :
    registry.processAll (front ++ back) = (registry.processAll front).registry.processAll back := by
  have kept : (registry.processAll front).registry.validators = registry.validators :=
    (stable_validators _).handleAll _ rfl
  unfold processAll at *
  rw [List.flatMap_append, handleAll_append _ quiet, kept]

theorem stable_extends (old : Registry) : Stable old.Extends where
  grant := fun _ _ _ _ granted grown => grown.trans (extends_grant (verdict_accepted granted).1)
  addError := fun _ issue grown => grown.trans (extends_addError _ issue)
  addWarnings := fun _ warnings grown => grown.trans (extends_addWarnings _ warnings)

theorem Consistent.reset (valid : registry.Consistent) : registry.reset.Consistent :=
  ⟨valid.standard, List.nodup_nil, rfl, fun _ member => absurd member List.not_mem_nil⟩

theorem Consistent.answer (valid : registry.Consistent) (call : Call) :
    (registry.answer call).registry.Consistent := by
  cases call with
  | reset => exact valid.reset
  | _ => exact stable_consistent.answer valid nofun

theorem Consistent.afterCalls (valid : registry.Consistent) (calls : List Call) :
    (registry.afterCalls calls).Consistent := by
  induction calls generalizing registry with
  | nil => exact valid
  | cons call rest ih => exact ih (valid.answer call)

/-- Every session of a fresh registry keeps the invariant, and each of its calls but a reset only
adds to what is there. -/
theorem session_invariant (calls : List Call) :
    (fresh.afterCalls calls).Consistent ∧
      ∀ call, call ≠ .reset →
        (fresh.afterCalls calls).Extends ((fresh.afterCalls calls).answer call).registry := by
  refine ⟨consistent_fresh.afterCalls calls, ?_⟩
  intro call goesOn
  exact (stable_extends _).answer (Extends.refl _) goesOn

theorem session_invariant_after_reset :
    let session := fresh.afterCalls
      [.bid ⟨"GPIO", .str "B0", "main", 1, none, none, none⟩, .reset,
        .bid ⟨"PWM", .str "B4", "main", 2, none, none, none⟩]
    let call := Call.bid ⟨"gpio", .int 9, "main", 3, none, none, none⟩
    session.accepted.length = 1 ∧ call ≠ .reset ∧ session.Extends (session.answer call).registry :=
  ⟨rfl, nofun, (session_invariant _).2 _ nofun⟩

end Registry

end PinBudget
