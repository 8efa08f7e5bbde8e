import Mathlib.Algebra.BigOperators.Group.List.Basic
import Mathlib.Algebra.Ring.Int.Defs
import PinBudget.Proofs.Analysis.Agreement
import PinBudget.Proofs.Dict
import PinBudget.Proofs.Estimate.MemoryCompletion

/-!
Which conflicts a merge finds. Each later holder of a pin is in conflict with the first one, unless
both records are of one source. So whether a pin is contested depends on who holds it and not on the
order of the sources, and the verdict on a project does not either.
-/
namespace PinBudget

def Allocation.Keyed (allocation : Allocation) : Prop :=
  (allocation.pinMap.map Prod.fst).Nodup

namespace Conflict

variable {owners : Dict Pin Record} {entries : List (Pin × Record)} {entry : Pin × Record}
variable {allocations earlier : List Allocation} {pin : Pin} {owner record : Record}

/-- The conflict of an entry with the owner of its pin, if there is one of another source. -/
def rival? (owner? : Pin → Option Record) (entry : Pin × Record) : Option Conflict :=
  match owner? entry.1 with
  | none => none
  | some owner =>
    if owner.sourceId = entry.2.sourceId then none else some ⟨entry.1, owner, entry.2⟩

theorem rival?_eq_some_iff {owner? : Pin → Option Record} {conflict : Conflict} :
    rival? owner? entry = some conflict ↔
      entry = (conflict.pin, conflict.claimant) ∧ owner? conflict.pin = some conflict.owner ∧
        conflict.owner.sourceId ≠ conflict.claimant.sourceId := by
  obtain ⟨pin, record⟩ := entry
  obtain ⟨contested, owner, claimant⟩ := conflict
  unfold rival?
  constructor
  · intro found
    split at found
    · cases found
    · rename_i first held
      split at found
      · cases found
      · rename_i different
        cases found
        exact ⟨rfl, held, different⟩
  · rintro ⟨same, held, different⟩
    cases same
    simp [held, different]

/-- The pins of one allocation, given the owners so far: those that are owned by another source are
in conflict, and those without an owner are owned from now on. -/
theorem amongFrom_append_keyed (rest : List (Pin × Record))
    (distinct : (entries.map Prod.fst).Nodup) :
    amongFrom owners (entries ++ rest) =
      entries.filterMap (rival? owners.get?) ++
        amongFrom (owners ++ entries.filter fun entry => !owners.has entry.1) rest := by
  induction entries generalizing owners with
  | nil => simp
  | cons entry tail ih =>
    obtain ⟨pin, record⟩ := entry
    obtain ⟨missing, distinctTail⟩ := List.nodup_cons.mp distinct
    rw [List.cons_append, amongFrom]
    cases owned : owners.get? pin with
    | some owner =>
      by_cases same : owner.sourceId = record.sourceId
      · simp [same, rival?, owned, Dict.has, ih distinctTail]
      · simp [same, rival?, owned, Dict.has, ih distinctTail]
    | none =>
      have unmet (other : Pin × Record) (member : other ∈ tail) :
          Dict.get? (owners ++ [(pin, record)]) other.1 = owners.get? other.1 := by
        apply Dict.get?_concat_of_ne
        intro known
        exact missing (List.mem_map.mpr ⟨other, member, known⟩)
      have sameRivals : tail.filterMap (rival? (Dict.get? (owners ++ [(pin, record)]))) =
          tail.filterMap (rival? owners.get?) := by
        apply List.filterMap_congr
        intro other member
        rw [rival?, rival?, unmet other member]
      have sameNew : (tail.filter fun entry => !Dict.has (owners ++ [(pin, record)]) entry.1) =
          tail.filter fun entry => !owners.has entry.1 := by
        apply List.filter_congr
        intro other member
        rw [Dict.has, Dict.has, unmet other member]
      simp only [Dict.set_of_absent owned]
      rw [ih distinctTail, sameRivals, sameNew]
      simp [rival?, owned, Dict.has]

/-- The record of the first allocation that holds a pin. -/
def firstHolder? (allocations : List Allocation) (pin : Pin) : Option Record :=
  allocations.findSome? fun allocation => allocation.pinMap.get? pin

/-- The entries that come too late, in their order, each with the first holder of its pin among the
allocations before its own. -/
def laterClaims (allocations : List Allocation) : List Conflict :=
  allocations.zipIdx.flatMap fun (allocation, place) =>
    allocation.pinMap.filterMap (rival? (firstHolder? (allocations.take place)))

theorem firstHolder?_append (front back : List Allocation) (pin : Pin) :
    firstHolder? (front ++ back) pin = (firstHolder? front pin).or (firstHolder? back pin) := by
  unfold firstHolder?
  rw [List.findSome?_append]

theorem firstHolder?_singleton (allocation : Allocation) (pin : Pin) :
    firstHolder? [allocation] pin = allocation.pinMap.get? pin := by
  unfold firstHolder?
  rw [List.findSome?_singleton]

/-- The walk over the entries finds the later claims, as long as the owners it has are the first
holders among the allocations that it has passed. -/
theorem amongFrom_eq_laterClaims (known : owners.get? = firstHolder? earlier)
    (keyed : ∀ allocation ∈ allocations, allocation.Keyed) :
    amongFrom owners (allocations.flatMap Allocation.pinMap) =
      (allocations.zipIdx earlier.length).flatMap fun (allocation, place) =>
        allocation.pinMap.filterMap (rival? (firstHolder? ((earlier ++ allocations).take place))) := by
  induction allocations generalizing owners earlier with
  | nil => rfl
  | cons allocation rest ih =>
    obtain ⟨own, others⟩ := List.forall_mem_cons.mp keyed
    have grown : Dict.get? (owners ++ allocation.pinMap.filter fun entry => !owners.has entry.1) =
        firstHolder? (earlier ++ [allocation]) := by
      funext pin
      rw [Dict.get?_append_new, firstHolder?_append, firstHolder?_singleton, known]
    have passed : (earlier ++ allocation :: rest).take earlier.length = earlier :=
      List.take_left
    have further := ih grown others
    rw [List.append_assoc, List.singleton_append, List.length_append] at further
    rw [List.flatMap_cons, amongFrom_append_keyed _ own, further, known, List.zipIdx_cons,
      List.flatMap_cons]
    simp only [passed]
    rfl

theorem among_eq_laterClaims (keyed : ∀ allocation ∈ allocations, allocation.Keyed) :
    among allocations = laterClaims allocations := by
  have started : Dict.get? ([] : Dict Pin Record) = firstHolder? [] := rfl
  exact amongFrom_eq_laterClaims started keyed

/-- A conflict is between an entry and the first holder of its pin among the allocations before. -/
theorem mem_among_iff (keyed : ∀ allocation ∈ allocations, allocation.Keyed) {conflict : Conflict} :
    conflict ∈ among allocations ↔
      ∃ place own, allocations[place]? = some own ∧
        (conflict.pin, conflict.claimant) ∈ own.pinMap ∧
        firstHolder? (allocations.take place) conflict.pin = some conflict.owner ∧
        conflict.owner.sourceId ≠ conflict.claimant.sourceId := by
  rw [among_eq_laterClaims keyed, laterClaims, List.mem_flatMap]
  constructor
  · rintro ⟨⟨own, place⟩, member, found⟩
    obtain ⟨entry, held, rival⟩ := List.mem_filterMap.mp found
    obtain ⟨rfl, first, different⟩ := rival?_eq_some_iff.mp rival
    exact ⟨place, own, List.mem_zipIdx_iff_getElem?.mp member, held, first, different⟩
  · rintro ⟨place, own, found, held, first, different⟩
    refine ⟨(own, place), List.mem_zipIdx_iff_getElem?.mpr found, ?_⟩
    exact List.mem_filterMap.mpr ⟨_, held, rival?_eq_some_iff.mpr ⟨rfl, first, different⟩⟩

def Contested (allocations : List Allocation) (pin : Pin) : Prop :=
  ∃ first ∈ allocations, ∃ second ∈ allocations, ∃ record other,
    (pin, record) ∈ first.pinMap ∧ (pin, other) ∈ second.pinMap ∧
      record.sourceId ≠ other.sourceId

theorem exists_of_firstHolder? (held : firstHolder? allocations pin = some record) :
    ∃ allocation ∈ allocations, (pin, record) ∈ allocation.pinMap := by
  obtain ⟨allocation, member, found⟩ := List.exists_of_findSome?_eq_some held
  exact ⟨allocation, member, Dict.mem_of_get? found⟩

theorem exists_firstHolder? {allocation : Allocation} (keyed : allocation.Keyed)
    (member : allocation ∈ allocations) (held : (pin, record) ∈ allocation.pinMap) :
    ∃ first, firstHolder? allocations pin = some first := by
  apply Option.isSome_iff_exists.mp
  rw [firstHolder?, List.findSome?_isSome_iff]
  exact ⟨allocation, member, by rw [Dict.get?_of_mem keyed held]; rfl⟩

/-- A holder of another source than the first one comes behind it. -/
theorem firstHolder?_take {own : Allocation} {place : Nat} (keyed : own.Keyed)
    (found : allocations[place]? = some own) (held : (pin, record) ∈ own.pinMap)
    (first : firstHolder? allocations pin = some owner)
    (different : owner.sourceId ≠ record.sourceId) :
    firstHolder? (allocations.take place) pin = some owner := by
  obtain ⟨within, here⟩ := List.getElem?_eq_some_iff.mp found
  have parted : allocations = allocations.take place ++ own :: allocations.drop (place + 1) := by
    rw [← here, ← List.drop_eq_getElem_cons within, List.take_append_drop]
  rw [parted, firstHolder?_append, ← List.singleton_append, firstHolder?_append,
    firstHolder?_singleton, Dict.get?_of_mem keyed held] at first
  cases earlier : firstHolder? (allocations.take place) pin with
  | some holder =>
    rw [earlier] at first
    exact first
  | none =>
    rw [earlier] at first
    cases first
    exact absurd rfl different

theorem mem_pins_among_iff (keyed : ∀ allocation ∈ allocations, allocation.Keyed) :
    pin ∈ (among allocations).map Conflict.pin ↔ Contested allocations pin := by
  rw [List.mem_map]
  constructor
  · rintro ⟨conflict, member, rfl⟩
    obtain ⟨place, own, found, held, first, different⟩ := (mem_among_iff keyed).mp member
    obtain ⟨earlier, before, owned⟩ := exists_of_firstHolder? first
    exact ⟨earlier, List.mem_of_mem_take before, own, List.mem_of_getElem? found, _, _, owned, held,
      different⟩
  · rintro ⟨one, oneIn, two, twoIn, record, other, held, otherHeld, different⟩
    obtain ⟨owner, first⟩ := exists_firstHolder? (keyed one oneIn) oneIn held
    have late {own : Allocation} {claimant : Record} (member : own ∈ allocations)
        (claimed : (pin, claimant) ∈ own.pinMap) (foreign : owner.sourceId ≠ claimant.sourceId) :
        ∃ conflict ∈ among allocations, conflict.pin = pin := by
      obtain ⟨place, found⟩ := List.getElem?_of_mem member
      have before := firstHolder?_take (keyed own member) found claimed first foreign
      exact ⟨⟨pin, owner, claimant⟩,
        (mem_among_iff keyed).mpr ⟨place, own, found, claimed, before, foreign⟩, rfl⟩
    by_cases same : owner.sourceId = record.sourceId
    · exact late twoIn otherHeld (same ▸ different)
    · exact late oneIn held same

theorem Contested.perm {others : List Allocation} (moved : others.Perm allocations)
    (contested : Contested allocations pin) : Contested others pin := by
  obtain ⟨first, firstIn, second, secondIn, held⟩ := contested
  exact ⟨first, moved.mem_iff.mpr firstIn, second, moved.mem_iff.mpr secondIn, held⟩

theorem mem_pins_among_perm {others : List Allocation} (moved : others.Perm allocations)
    (keyed : ∀ allocation ∈ allocations, allocation.Keyed) :
    pin ∈ (among others).map Conflict.pin ↔ pin ∈ (among allocations).map Conflict.pin := by
  have alsoKeyed : ∀ allocation ∈ others, allocation.Keyed :=
    fun allocation member => keyed allocation (moved.mem_iff.mp member)
  rw [mem_pins_among_iff alsoKeyed, mem_pins_among_iff keyed]
  exact ⟨.perm moved.symm, .perm moved⟩

theorem among_eq_nil_perm {others : List Allocation} (moved : others.Perm allocations)
    (keyed : ∀ allocation ∈ allocations, allocation.Keyed) :
    among others = [] ↔ among allocations = [] := by
  have empty (conflicts : List Conflict) :
      conflicts = [] ↔ ∀ pin, pin ∉ conflicts.map Conflict.pin := by
    rw [← List.eq_nil_iff_forall_not_mem, List.map_eq_nil_iff]
  rw [empty, empty]
  constructor
  · intro none pin member
    exact none pin ((mem_pins_among_perm moved keyed).mpr member)
  · intro none pin member
    exact none pin ((mem_pins_among_perm moved keyed).mp member)

/-- Among the pins of one allocation, one that an owner of another source has is in conflict
once. -/
theorem count_rivals (distinct : (entries.map Prod.fst).Nodup)
    (foreign : ∀ owner record, owners.get? pin = some owner → (pin, record) ∈ entries →
      owner.sourceId ≠ record.sourceId) :
    (entries.filterMap (rival? owners.get?)).countP (fun conflict => conflict.pin == pin) =
      if owners.has pin && Dict.has entries pin then 1 else 0 := by
  have counted : ∀ entry ∈ entries,
      ((rival? owners.get? entry).map fun conflict => conflict.pin == pin).getD false =
        (owners.has pin && entry.1 == pin) := by
    rintro ⟨held, record⟩ member
    by_cases same : held = pin
    · subst held
      cases owned : owners.get? pin with
      | none => simp [rival?, owned, Dict.has]
      | some owner => simp [rival?, owned, Dict.has, foreign owner record owned member]
    · unfold rival?
      simp only [beq_eq_false_iff_ne.mpr same, Bool.and_false]
      split
      · rfl
      · split
        · rfl
        · simp [same]
  rw [List.countP_filterMap, List.countP_congr fun entry member => by rw [counted entry member]]
  cases owners.has pin with
  | false => simp
  | true =>
    have keys : entries.countP (fun entry => entry.1 == pin) = (entries.map Prod.fst).count pin := by
      rw [List.count_eq_countP, List.countP_map]
      rfl
    simp only [Bool.true_and, keys, distinct.count, ← Dict.has_iff_mem_keys]

end Conflict

namespace Project

variable {files others : List FileAnalysis} {pin : Pin}

/-- Sources with names of their own, each of which holds its pins under its name. A pin that
somebody owns is in conflict for each source that holds it; one that nobody owns, for each but the
first. -/
theorem count_amongFrom {owners : Dict Pin Record}
    (keyed : ∀ file ∈ files, file.allocation.Keyed)
    (distinct : (files.map FileAnalysis.sourceId).Nodup)
    (signed : ∀ file ∈ files, ∀ entry ∈ file.allocation.pinMap, entry.2.sourceId = file.sourceId)
    (foreign : ∀ file ∈ files, ∀ owner, owners.get? pin = some owner →
      owner.sourceId ≠ file.sourceId) :
    (Conflict.amongFrom owners (files.flatMap fun file => file.allocation.pinMap)).countP
        (fun conflict => conflict.pin == pin) =
      files.countP (fun file => file.allocation.pinMap.has pin) -
        if owners.has pin then 0 else 1 := by
  induction files generalizing owners with
  | nil => simp [Conflict.amongFrom]
  | cons file rest ih =>
    obtain ⟨ownKeyed, restKeyed⟩ := List.forall_mem_cons.mp keyed
    obtain ⟨ownSigned, restSigned⟩ := List.forall_mem_cons.mp signed
    obtain ⟨ownForeign, restForeign⟩ := List.forall_mem_cons.mp foreign
    obtain ⟨other, distinctRest⟩ := List.nodup_cons.mp distinct
    have against : ∀ owner record, owners.get? pin = some owner →
        (pin, record) ∈ file.allocation.pinMap → owner.sourceId ≠ record.sourceId := by
      intro owner record owned held
      rw [ownSigned (pin, record) held]
      exact ownForeign owner owned
    have grown := Dict.get?_append_new owners file.allocation.pinMap pin
    have grownHas : Dict.has
        (owners ++ file.allocation.pinMap.filter fun entry => !owners.has entry.1) pin =
          (owners.has pin || file.allocation.pinMap.has pin) := by
      rw [Dict.has, grown, Option.isSome_or]
      rfl
    have foreignNext : ∀ next ∈ rest, ∀ owner,
        Dict.get? (owners ++ file.allocation.pinMap.filter fun entry => !owners.has entry.1) pin =
          some owner → owner.sourceId ≠ next.sourceId := by
      intro next later owner owned
      rw [grown] at owned
      rcases Option.or_eq_some_iff.mp owned with earlier | ⟨_, own⟩
      · exact restForeign next later owner earlier
      · rw [ownSigned _ (Dict.mem_of_get? own)]
        intro same
        exact other (List.mem_map.mpr ⟨next, later, same.symm⟩)
    rw [List.flatMap_cons, Conflict.amongFrom_append_keyed _ ownKeyed, List.countP_append,
      Conflict.count_rivals ownKeyed against, ih restKeyed distinctRest restSigned foreignNext,
      List.countP_cons]
    rw [grownHas]
    cases owners.has pin <;> cases file.allocation.pinMap.has pin <;> simp [Nat.add_comm]

/-- A pin is in conflict once for each source that holds it, but for the first. -/
theorem count_among (keyed : ∀ file ∈ files, file.allocation.Keyed)
    (distinct : (files.map FileAnalysis.sourceId).Nodup)
    (signed : ∀ file ∈ files, ∀ entry ∈ file.allocation.pinMap, entry.2.sourceId = file.sourceId) :
    (Conflict.among (files.map FileAnalysis.allocation)).countP
        (fun conflict => conflict.pin == pin) =
      files.countP (fun file => file.allocation.pinMap.has pin) - 1 := by
  have unowned : ∀ file ∈ files, ∀ owner, Dict.get? ([] : Dict Pin Record) pin = some owner →
      owner.sourceId ≠ file.sourceId := by
    intro file _ owner owned
    cases owned
  rw [Conflict.among, List.flatMap_map, count_amongFrom keyed distinct signed unowned]
  rfl

end Project

namespace ResourceEstimate

variable {estimates others : List ResourceEstimate} {config : Config} {sourceId : String}

/-- The memory is a whole number of bytes. -/
def WholeRam (estimate : ResourceEstimate) : Prop :=
  ∃ bytes, estimate.ramBytes = .int bytes

theorem wholeRam_of_ofSource (whole : WholeCosts config.memory) {text : String}
    {extraction : Extraction} {held : List HeldPin} {responseLimit : Option Number}
    {bytecode : Option (List UInt8)} {estimate : ResourceEstimate}
    (estimated : ofSource config text sourceId extraction held responseLimit bytecode =
      .ok estimate) : estimate.WholeRam := by
  obtain ⟨memory, charged, estimated⟩ := bind_eq_ok.mp estimated
  obtain ⟨timing, _, estimated⟩ := bind_eq_ok.mp estimated
  obtain ⟨performance, _, estimated⟩ := bind_eq_ok.mp estimated
  obtain ⟨setups, _, estimated⟩ := bind_eq_ok.mp estimated
  obtain ⟨compatibility, _, estimated⟩ := bind_eq_ok.mp estimated
  have kept : estimate.ramBytes = memory.ramBytes := by
    cases bytecode with
    | none =>
      cases estimated
      rfl
    | some data =>
      obtain ⟨check, _, made⟩ := bind_eq_ok.mp estimated
      cases made
      rfl
  rw [WholeRam, kept]
  exact MemoryEstimate.exists_ramBytes whole charged

/-- The bytes of memory, where they are a whole number. -/
def ramCount (estimate : ResourceEstimate) : Int :=
  match estimate.ramBytes with
  | .int bytes => bytes
  | .float _ => 0

theorem sum_ramBytes (whole : ∀ estimate ∈ estimates, estimate.WholeRam) (start : Int) :
    Number.sum (.int start) (estimates.map ramBytes) =
      .ok (.int (start + (estimates.map ramCount).sum)) := by
  induction estimates generalizing start with
  | nil => simp [Number.sum]
  | cons estimate rest ih =>
    obtain ⟨⟨bytes, own⟩, others⟩ := List.forall_mem_cons.mp whole
    have counted : estimate.ramCount = bytes := by rw [ramCount, own]
    rw [List.map_cons, Number.sum, own, Number.add]
    simp only [ih others, List.map_cons, List.sum_cons, counted, Int.add_assoc]

/-- The running time decides what is noted on it, and not whether it can be compared. -/
theorem exists_projectTimeFindings (config : Config) (sourceId : String) (execution : Float) :
    ∃ notes, projectTimeFindings config sourceId execution =
      (Config.number (config.timing .executionLimit)).map fun _ => notes := by
  unfold projectTimeFindings Config.above
  cases Config.number (config.timing .executionLimit) with
  | error fault => exact ⟨[], rfl⟩
  | ok limit =>
    simp only [Except.map, bind, Except.bind]
    split
    · exact ⟨_, rfl⟩
    · exact ⟨_, rfl⟩

/-- Totals exist if the memory can be added up and compared with its limits, and the limit on the
running time is a number. -/
theorem ramBytes_combine (config : Config) (sourceId : String) (estimates : List ResourceEstimate) :
    (combine config sourceId estimates).map ramBytes =
      (Number.sum (.int 0) (estimates.map ramBytes)).bind fun ram =>
        (projectRamFindings config sourceId ram).bind fun _ =>
          (Config.number (config.timing .executionLimit)).map fun _ => ram := by
  choose notes timed using exists_projectTimeFindings config sourceId
  unfold combine
  simp only [timed, bind]
  cases Number.sum (.int 0) (estimates.map ramBytes) with
  | error fault => rfl
  | ok ram =>
    simp only [Except.bind]
    cases projectRamFindings config sourceId ram with
    | error fault => rfl
    | ok ramNotes => cases Config.number (config.timing .executionLimit) <;> rfl

theorem ramBytes_combine_perm (moved : others.Perm estimates)
    (whole : ∀ estimate ∈ estimates, estimate.WholeRam) :
    (combine config sourceId others).map ramBytes =
      (combine config sourceId estimates).map ramBytes := by
  have alsoWhole : ∀ estimate ∈ others, estimate.WholeRam :=
    fun estimate member => whole estimate (moved.mem_iff.mp member)
  have total : (others.map ramCount).sum = (estimates.map ramCount).sum :=
    (moved.map ramCount).sum_eq
  rw [ramBytes_combine, ramBytes_combine, sum_ramBytes alsoWhole, sum_ramBytes whole, total]

end ResourceEstimate

theorem FileAnalysis.wholeRam_of_ofAllocation {options : AnalysisOptions}
    (whole : WholeCosts options.config.memory) {text : String} {extraction : Extraction}
    {allocation : Allocation} {bytecode : Option (List UInt8)} {file : FileAnalysis}
    (analyzed : ofAllocation options text extraction allocation bytecode = .ok file) :
    ∀ estimate, file.estimate = some estimate → estimate.WholeRam := by
  unfold ofAllocation at analyzed
  split at analyzed
  · obtain ⟨found, made, same⟩ := bind_eq_ok.mp analyzed
    obtain ⟨own, estimated, given⟩ := map_eq_ok.mp made
    cases given
    cases same
    rintro estimate ⟨⟩
    exact ResourceEstimate.wholeRam_of_ofSource whole estimated
  · cases analyzed
    rintro estimate ⟨⟩

/-- Sources that are analyzed with whole costs take whole numbers of bytes. -/
theorem FileAnalysis.wholeRam_of_ofSource {options : AnalysisOptions}
    (whole : WholeCosts options.config.memory) {text sourceId : String}
    {bytecode : Option (List UInt8)} {file : FileAnalysis}
    (analyzed : ofSource options text sourceId bytecode = .ok file) :
    ∀ estimate, file.estimate = some estimate → estimate.WholeRam := by
  unfold ofSource ofSourceIn at analyzed
  split at analyzed
  · cases analyzed
  · dsimp only at analyzed
    split at analyzed
    · cases analyzed
    · exact wholeRam_of_ofAllocation whole analyzed

namespace Project

variable {files others : List FileAnalysis}

/-- What a project comes to: whether it is valid, and the memory of all its sources. -/
def summary (project : Project) : Bool × Option Number :=
  (project.valid, project.estimate.map ResourceEstimate.ramBytes)

theorem summary_merge (config : Config) (files : List FileAnalysis) :
    (merge config files).map summary =
      (if (files.filterMap FileAnalysis.estimate).isEmpty then .ok none
        else ((ResourceEstimate.combine config totalsId (files.filterMap FileAnalysis.estimate)).map
          ResourceEstimate.ramBytes).map some).map fun ram =>
        (files.all FileAnalysis.valid &&
          (Conflict.among (files.map FileAnalysis.allocation)).isEmpty, ram) := by
  unfold merge
  simp only
  cases (files.filterMap FileAnalysis.estimate).isEmpty with
  | true => rfl
  | false =>
    cases ResourceEstimate.combine config totalsId (files.filterMap FileAnalysis.estimate) <;> rfl

theorem valid_perm (moved : others.Perm files)
    (keyed : ∀ file ∈ files, file.allocation.Keyed) :
    (others.all FileAnalysis.valid &&
        (Conflict.among (others.map FileAnalysis.allocation)).isEmpty) =
      (files.all FileAnalysis.valid &&
        (Conflict.among (files.map FileAnalysis.allocation)).isEmpty) := by
  have conflicts := Conflict.among_eq_nil_perm (moved.map FileAnalysis.allocation)
    (List.forall_mem_map.mpr keyed)
  have empty : (Conflict.among (others.map FileAnalysis.allocation)).isEmpty =
      (Conflict.among (files.map FileAnalysis.allocation)).isEmpty := by
    rw [Bool.eq_iff_iff, List.isEmpty_iff, List.isEmpty_iff, conflicts]
  rw [moved.all_eq, empty]

theorem valid_of_merge {config : Config} {project : Project}
    (merged : merge config files = .ok project) :
    project.valid = (files.all FileAnalysis.valid &&
      (Conflict.among (files.map FileAnalysis.allocation)).isEmpty) := by
  obtain ⟨sources, conflicts⟩ := of_merge merged
  rw [valid, sources, conflicts]

theorem summary_merge_perm (moved : others.Perm files)
    (keyed : ∀ file ∈ files, file.allocation.Keyed)
    (whole : ∀ file ∈ files, ∀ estimate, file.estimate = some estimate → estimate.WholeRam)
    (config : Config) :
    (merge config others).map summary = (merge config files).map summary := by
  have sameEstimates := moved.filterMap FileAnalysis.estimate
  have wholeAll : ∀ estimate ∈ files.filterMap FileAnalysis.estimate, estimate.WholeRam := by
    intro estimate member
    obtain ⟨file, own, given⟩ := List.mem_filterMap.mp member
    exact whole file own estimate given
  rw [summary_merge, summary_merge, valid_perm moved keyed, sameEstimates.isEmpty_eq,
    ResourceEstimate.ramBytes_combine_perm sameEstimates wholeAll]

/-- The conflicts of a project are its later claims: one for each entry whose pin an earlier source
holds first under another name, in the order of the entries, with that first record and its own. So
the order of the sources changes neither which pins are in conflict nor whether any is; it changes
neither the verdict nor the memory of all sources, which is a whole number of bytes. Where each
source has a name of its own and holds its pins under it, a pin is in conflict once for each of its
holders but the first. -/
theorem conflicts_are_later_claims (files : List FileAnalysis)
    (keyed : ∀ file ∈ files, file.allocation.Keyed) :
    let conflicts := Conflict.among (files.map FileAnalysis.allocation)
    conflicts = Conflict.laterClaims (files.map FileAnalysis.allocation) ∧
      (∀ others : List FileAnalysis, others.Perm files →
        let moved := Conflict.among (others.map FileAnalysis.allocation)
        (∀ pin, pin ∈ moved.map Conflict.pin ↔ pin ∈ conflicts.map Conflict.pin) ∧
        (moved = [] ↔ conflicts = []) ∧
        (∀ config project other, merge config files = .ok project →
          merge config others = .ok other → other.valid = project.valid) ∧
        ((∀ file ∈ files, ∀ estimate, file.estimate = some estimate → estimate.WholeRam) →
          ∀ config, (merge config others).map summary = (merge config files).map summary)) ∧
      ((files.map FileAnalysis.sourceId).Nodup →
        (∀ file ∈ files, ∀ entry ∈ file.allocation.pinMap, entry.2.sourceId = file.sourceId) →
        ∀ pin, (∃ file ∈ files, file.allocation.pinMap.has pin = true) →
          conflicts.countP (fun conflict => conflict.pin == pin) + 1 =
            files.countP fun file => file.allocation.pinMap.has pin) := by
  have each : ∀ allocation ∈ files.map FileAnalysis.allocation, allocation.Keyed :=
    List.forall_mem_map.mpr keyed
  refine ⟨Conflict.among_eq_laterClaims each, ?_, ?_⟩
  · intro others moved
    have rearranged := moved.map FileAnalysis.allocation
    refine ⟨fun pin => Conflict.mem_pins_among_perm rearranged each,
      Conflict.among_eq_nil_perm rearranged each, ?_, summary_merge_perm moved keyed⟩
    intro config project other merged remerged
    rw [valid_of_merge merged, valid_of_merge remerged, valid_perm moved keyed]
  · intro distinct signed pin held
    have some : 0 < files.countP fun file => file.allocation.pinMap.has pin :=
      List.countP_pos_iff.mpr held
    rw [count_among keyed distinct signed]
    exact Nat.sub_add_cancel some

/-- A source that holds the pin B7 on one of its lines. -/
private def holderOfB7 (sourceId : String) (kind : Kind) (line : Int) : FileAnalysis :=
  let record : Record :=
    { pin := ⟨.b, 7, by decide⟩
      kind := kind
      sourceId := sourceId
      line := line
      function := none
      hardwareFunction := none
      holder := none
      info := ""
      unit := none }
  { sourceId := sourceId
    allocation := { accepted := [record], pinMap := [(record.pin, record)] }
    estimate := some { sourceId := sourceId, ramBytes := .int 40 } }

theorem conflicts_are_later_claims_of_three :
    let files :=
      [holderOfB7 "a.rb" .gpio 3, holderOfB7 "b.rb" .pwm 5, holderOfB7 "c.rb" .gpio 8]
    let conflicts := Conflict.among (files.map FileAnalysis.allocation)
    conflicts = Conflict.laterClaims (files.map FileAnalysis.allocation) ∧
      conflicts.map (fun conflict => (conflict.owner.line, conflict.claimant.line)) =
        [(3, 5), (3, 8)] ∧
      conflicts.countP (fun conflict => conflict.pin == ⟨.b, 7, by decide⟩) + 1 = 3 ∧
      Conflict.among (files.reverse.map FileAnalysis.allocation) ≠ [] ∧
      ∀ config, (merge config files.reverse).map summary = (merge config files).map summary := by
  intro files conflicts
  have keyed : ∀ file ∈ files, file.allocation.Keyed := by
    simp [files, holderOfB7, Allocation.Keyed]
  have whole : ∀ file ∈ files, ∀ estimate, file.estimate = some estimate → estimate.WholeRam := by
    simp [files, holderOfB7, ResourceEstimate.WholeRam]
  have signed : ∀ file ∈ files, ∀ entry ∈ file.allocation.pinMap,
      entry.2.sourceId = file.sourceId := by
    simp [files, holderOfB7]
  have found : conflicts ≠ [] := by decide
  obtain ⟨later, moved, counted⟩ := conflicts_are_later_claims files keyed
  obtain ⟨_, empty, _, same⟩ := moved files.reverse files.reverse_perm
  exact ⟨later, by decide, counted (by decide) signed _ (by decide),
    fun none => found (empty.mp none), same whole⟩

end Project

end PinBudget
