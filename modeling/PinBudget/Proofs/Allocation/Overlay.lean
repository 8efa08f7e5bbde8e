import PinBudget.Proofs.Allocation.Invariant

/-!
Two registries that handle the same requests, one of them with pins that are held from the start. It
grants what the other one grants, less those pins, and meets no fault where the other one meets
none.
-/
namespace PinBudget.Registry

variable {registry own joint : Registry} {base : Dict Pin Record} {record : Record}

/-- The joint registry holds the pins of the base, and the pins of its own that the base has not. -/
structure Overlay (base : Dict Pin Record) (own joint : Registry) : Prop where
  validators : joint.validators = own.validators
  pinMap : joint.pinMap = base ++ own.pinMap.filter fun entry => !base.has entry.1

namespace Overlay

theorem get? (layered : Overlay base own joint) (pin : Pin) :
    joint.pinMap.get? pin = (base.get? pin).or (own.pinMap.get? pin) := by
  rw [layered.pinMap, Dict.get?_append_new]

/-- Every registry lies over a fresh one, with its own pins as the base. -/
theorem of_fresh (board : registry.validators = Validators.standard) :
    Overlay registry.pinMap fresh registry :=
  ⟨board, (List.append_nil _).symm⟩

theorem congr {own' joint' : Registry} (layered : Overlay base own joint)
    (ownBoard : own'.validators = own.validators) (ownPins : own'.pinMap = own.pinMap)
    (board : joint'.validators = joint.validators) (pins : joint'.pinMap = joint.pinMap) :
    Overlay base own' joint' :=
  ⟨by rw [board, layered.validators, ownBoard], by rw [pins, layered.pinMap, ownPins]⟩

theorem grant_both (layered : Overlay base own joint) (new : base.get? record.pin = none)
    (free : own.pinMap.get? record.pin = none) :
    Overlay base (own.grant record) (joint.grant record) := by
  have jointFree : joint.pinMap.get? record.pin = none := by
    rw [layered.get?, new, free]
    rfl
  refine ⟨layered.validators, ?_⟩
  rw [pinMap_grant jointFree, pinMap_grant free, layered.pinMap, List.filter_append,
    List.append_assoc]
  simp [Dict.has, new]

/-- A pin of the base stays where it is, whoever else gets it. -/
theorem grant_own {existing : Record} (layered : Overlay base own joint)
    (taken : base.get? record.pin = some existing) (free : own.pinMap.get? record.pin = none) :
    Overlay base (own.grant record) joint := by
  refine ⟨layered.validators, ?_⟩
  rw [pinMap_grant free, layered.pinMap, List.filter_append]
  simp [Dict.has, taken]

theorem settle {one two : Verdict} (layered : Overlay base own joint)
    (refused : one.isGranted = false) (alsoRefused : two.isGranted = false) :
    Overlay base (own.settle one).registry (joint.settle two).registry :=
  layered.congr (validators_settle one) (pinMap_settle refused) (validators_settle two)
    (pinMap_settle alsoRefused)

/-- One claim. The base decides only claims that name one of its pins, and those it refuses. -/
theorem claim (layered : Overlay base own joint) (claim : Claim)
    (quiet : (own.claim claim).fault = none) :
    (joint.claim claim).fault = none ∧
      Overlay base (own.claim claim).registry (joint.claim claim).registry := by
  unfold Registry.claim Registry.verdict at *
  rw [layered.validators]
  cases offered : own.validators claim.kind with
  | none => exact ⟨rfl, layered.settle rfl rfl⟩
  | some validator =>
    rw [offered] at quiet
    rcases claim.taken_or_free joint.pinMap with ⟨pin, existing, named, taken⟩ | free
    · rw [Claim.verdict_of_held claim named taken]
      refine ⟨rfl, ?_⟩
      cases judged : claim.verdict (some validator) own.pinMap with
      | accepted record warnings =>
        obtain ⟨recorded, free, _⟩ := Claim.verdict_accepted judged
        cases Option.some.inj (named.symm.trans recorded)
        rw [layered.get?, free, Option.or_none] at taken
        exact (layered.grant_own taken free).congr rfl rfl rfl rfl
      | _ => exact layered.settle rfl rfl
    · have ownFree (pin : Pin) (named : claim.value.literalPin? = some pin) :
          own.pinMap.get? pin = none := by
        have untaken := free pin named
        rw [layered.get?, Option.or_eq_none_iff] at untaken
        exact untaken.2
      have same : claim.verdict (some validator) joint.pinMap =
          claim.verdict (some validator) own.pinMap := by
        rw [Claim.verdict_of_untaken free, Claim.verdict_of_untaken ownFree]
      rw [same]
      cases judged : claim.verdict (some validator) own.pinMap with
      | accepted record warnings =>
        obtain ⟨recorded, untaken, _⟩ := Claim.verdict_accepted judged
        have new := free record.pin recorded
        rw [layered.get?, Option.or_eq_none_iff] at new
        exact ⟨rfl, (layered.grant_both new.1 untaken).congr rfl rfl rfl rfl⟩
      | refused issue => exact ⟨rfl, layered.settle rfl rfl⟩
      | unchecked warning => exact ⟨rfl, layered.settle rfl rfl⟩
      | stopped fault =>
        rw [judged] at quiet
        cases quiet

theorem handle (layered : Overlay base own joint) (request : Request)
    (quiet : (own.handle request).fault = none) :
    (joint.handle request).fault = none ∧
      Overlay base (own.handle request).registry (joint.handle request).registry := by
  cases request with
  | claim claim => exact layered.claim claim quiet
  | note warning => exact ⟨rfl, layered.congr rfl rfl rfl rfl⟩
  | issue issue => exact ⟨rfl, layered.congr rfl rfl rfl rfl⟩
  | stop fault => cases quiet

/-- A run that meets no fault on its own meets none on top of other pins either. -/
theorem handleAll (layered : Overlay base own joint) (requests : List Request)
    (quiet : (own.handleAll requests).fault = none) :
    (joint.handleAll requests).fault = none ∧
      Overlay base (own.handleAll requests).registry (joint.handleAll requests).registry := by
  induction requests generalizing own joint with
  | nil => exact ⟨rfl, layered⟩
  | cons request rest ih =>
    have first := handle_quiet quiet
    obtain ⟨jointFirst, stepped⟩ := layered.handle request first
    rw [handleAll_cons_quiet first] at quiet ⊢
    rw [handleAll_cons_quiet jointFirst]
    exact ih stepped quiet

end Overlay

end PinBudget.Registry
