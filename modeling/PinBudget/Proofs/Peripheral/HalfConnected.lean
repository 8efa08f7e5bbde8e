import Mathlib.Data.List.Forall2
import Mathlib.Data.List.Sort
import PinBudget.Peripheral.Validator

/-!
Serial lines that are connected in one direction only. A warning is given for exactly those units
that have a transmit pin but no receive pin among the pins of serial lines, or the reverse, in the
order of the units. So the warnings depend on nothing but which pins serial lines hold.
-/
namespace PinBudget

theorem pairwise_eraseDups {units : List Int} (ascending : units.Pairwise (· ≤ ·)) :
    units.eraseDups.Pairwise (· < ·) := by
  match units, ascending with
  | [], _ => exact .nil
  | first :: rest, ascending =>
    obtain ⟨least, later⟩ := List.pairwise_cons.mp ascending
    rw [List.eraseDups_cons, List.pairwise_cons]
    refine ⟨?_, pairwise_eraseDups (later.filter _)⟩
    intro unit member
    obtain ⟨among, other⟩ := List.mem_filter.mp (List.mem_eraseDups.mp member)
    have bound := least unit among
    have apart : unit ≠ first := by simpa using other
    omega
termination_by units.length
decreasing_by
  exact Nat.lt_succ_of_le (List.length_filter_le _ _)

theorem forall₂_filterMap {α β : Type} (give : α → Option β) (items : List α) :
    List.Forall₂ (fun item given => give item = some given)
      (items.filter fun item => (give item).isSome) (items.filterMap give) := by
  induction items with
  | nil => exact .nil
  | cons item rest ih =>
    cases given : give item with
    | none =>
      rw [List.filter_cons_of_neg (by simp [given]), List.filterMap_cons_none given]
      exact ih
    | some result =>
      rw [List.filter_cons_of_pos (by simp [given]), List.filterMap_cons_some given]
      exact .cons given ih

namespace Validator

variable {validator : Validator} {claims others : List (Pin × Kind)} {unit : Int} {role : String}

/-- A serial line holds a pin that has the role in the unit. -/
def Connects (validator : Validator) (claims : List (Pin × Kind)) (unit : Int) (role : String) :
    Prop :=
  ∃ pin, (pin, Kind.uart) ∈ claims ∧
    ∃ entry ∈ validator.entries pin, unit ∈ entry.units ∧ entry.function = some role

/-- The unit is connected in one direction only, and this is what there is to say about it. -/
@[mk_iff]
inductive HalfConnected (validator : Validator) (claims : List (Pin × Kind)) (unit : Int) :
    String → Prop where
  | deaf (sends : validator.Connects claims unit "TX")
      (receives : ¬validator.Connects claims unit "RX") :
      HalfConnected validator claims unit
        s!"UART{unit} has TX pin but no RX pin - receive capability disabled"
  | mute (receives : validator.Connects claims unit "RX")
      (sends : ¬validator.Connects claims unit "TX") :
      HalfConnected validator claims unit
        s!"UART{unit} has RX pin but no TX pin - transmit capability disabled"

theorem connects_iff (validator : Validator) (claims : List (Pin × Kind)) (unit : Int)
    (role : String) :
    validator.Connects claims unit role ↔
      ∃ pin ∈ (claims.filter fun claim => claim.2 == .uart).map Prod.fst,
        ∃ entry ∈ validator.entries pin, unit ∈ entry.units ∧ entry.function = some role := by
  simp [Connects]

theorem connects_congr (same : ∀ pin, (pin, Kind.uart) ∈ claims ↔ (pin, Kind.uart) ∈ others) :
    validator.Connects claims unit role ↔ validator.Connects others unit role := by
  simp only [Connects, same]

theorem HalfConnected.congr {text : String} (half : validator.HalfConnected claims unit text)
    (same : ∀ pin, (pin, Kind.uart) ∈ claims ↔ (pin, Kind.uart) ∈ others) :
    validator.HalfConnected others unit text := by
  cases half with
  | deaf sends receives =>
    exact .deaf ((connects_congr same).mp sends) ((connects_congr same).not.mp receives)
  | mute receives sends =>
    exact .mute ((connects_congr same).mp receives) ((connects_congr same).not.mp sends)

/-- Of two directions, a message is given for the one that is there without the other. -/
theorem oneSided_eq_some_iff {sends receives : Bool} {deaf mute text : String} :
    (if sends && !receives then some deaf else if receives && !sends then some mute else none) =
        some text ↔
      sends = true ∧ ¬receives = true ∧ text = deaf ∨
        receives = true ∧ ¬sends = true ∧ text = mute := by
  cases sends <;> cases receives <;> simp [eq_comm]

/-- The warnings are a pass over the units that says of each one whether it is half connected. -/
theorem exists_setupWarning (validator : Validator) (claims : List (Pin × Kind)) :
    ∃ warning? : Int → Option String,
      validator.setupWarnings claims = (validator.units?.getD []).filterMap warning? ∧
        ∀ unit text, warning? unit = some text ↔ validator.HalfConnected claims unit text := by
  refine ⟨_, rfl, ?_⟩
  intro unit text
  have tests (role : String) := (validator.unitHasFunction_iff _ unit role).trans
    (validator.connects_iff claims unit role).symm
  rw [halfConnected_iff, ← tests "TX", ← tests "RX"]
  exact oneSided_eq_some_iff

/-- The units of serial lines are the numbers that have default pins, in ascending order. -/
theorem exists_serial_units (serial : validator.kind = .uart) :
    ∃ units, validator.units? = some units ∧ units.Pairwise (· < ·) ∧
      ∀ unit, unit ∈ units ↔ unit ∈ validator.lineDefaults.map Prod.fst := by
  rw [units?, serial]
  refine ⟨_, rfl, ?_, ?_⟩
  · apply pairwise_eraseDups
    have transitive (first second third : Int) (low : decide (first ≤ second) = true)
        (high : decide (second ≤ third) = true) : decide (first ≤ third) = true :=
      decide_eq_true (Int.le_trans (of_decide_eq_true low) (of_decide_eq_true high))
    have total (first second : Int) :
        (decide (first ≤ second) || decide (second ≤ first)) = true := by
      simpa using Int.le_total first second
    have sorted := List.pairwise_mergeSort transitive total (validator.lineDefaults.map Prod.fst)
    exact sorted.imp of_decide_eq_true
  · intro unit
    exact List.mem_eraseDups.trans List.mem_mergeSort

theorem setupWarnings_congr (same : ∀ pin, (pin, Kind.uart) ∈ claims ↔ (pin, Kind.uart) ∈ others) :
    validator.setupWarnings claims = validator.setupWarnings others := by
  obtain ⟨warning?, warned, reported⟩ := validator.exists_setupWarning claims
  obtain ⟨warning'?, warned', reported'⟩ := validator.exists_setupWarning others
  have alike : warning? = warning'? := by
    funext unit
    apply Option.ext
    intro text
    rw [reported, reported']
    exact ⟨(·.congr same), (·.congr fun pin => (same pin).symm)⟩
  rw [warned, warned', alike]

/-- For every table and all default pins of serial lines, and for all claims: the warnings are one
for each unit that is connected in one direction only, in ascending order of the units that have
default pins, and they say which direction is missing. They do not change if the claims are
reordered or repeated, or if claims of other kinds are added. -/
theorem half_connected_units_reported (table : CapabilityTable) (defaults : Dict Int UartPins)
    (claims : List (Pin × Kind)) :
    let validator : Validator := { kind := .uart, table := table, lineDefaults := defaults }
    (∃ units reported, validator.units? = some units ∧ units.Pairwise (· < ·) ∧
        (∀ unit, unit ∈ units ↔ unit ∈ defaults.map Prod.fst) ∧ reported.Sublist units ∧
        (∀ unit ∈ units, unit ∈ reported ↔ ∃ text, validator.HalfConnected claims unit text) ∧
        List.Forall₂ (validator.HalfConnected claims) reported (validator.setupWarnings claims)) ∧
      (∀ others, claims.Perm others →
        validator.setupWarnings others = validator.setupWarnings claims) ∧
      (∀ repeated, repeated ⊆ claims →
        validator.setupWarnings (claims ++ repeated) = validator.setupWarnings claims) ∧
      ∀ foreign : List (Pin × Kind), (∀ claim ∈ foreign, claim.2 ≠ .uart) →
        validator.setupWarnings (claims ++ foreign) = validator.setupWarnings claims := by
  intro validator
  refine ⟨?_, ?_, ?_, ?_⟩
  · have serial : validator.kind = .uart := rfl
    obtain ⟨units, known, ascending, keys⟩ := exists_serial_units serial
    obtain ⟨warning?, warned, half⟩ := validator.exists_setupWarning claims
    rw [known, Option.getD_some] at warned
    refine ⟨units, units.filter fun unit => (warning? unit).isSome, known, ascending, keys,
      List.filter_sublist, ?_, ?_⟩
    · intro unit member
      simp only [List.mem_filter, member, true_and, Option.isSome_iff_exists, half]
    · rw [warned]
      exact (forall₂_filterMap warning? units).imp fun unit text => (half unit text).mp
  · intro others permuted
    exact setupWarnings_congr fun pin => permuted.symm.mem_iff
  · intro repeated subset
    apply setupWarnings_congr
    intro pin
    rw [List.mem_append]
    exact ⟨fun found => found.elim id fun again => subset again, .inl⟩
  · intro foreign other
    apply setupWarnings_congr
    intro pin
    rw [List.mem_append]
    exact ⟨fun found => found.elim id fun added => absurd rfl (other _ added), .inl⟩

/-- A serial table in which a pin has two entries and two units share an entry, with the default
pins of four units. -/
private def sharedEntries : CapabilityTable × Dict Int UartPins :=
  let first : Pin := ⟨.b, 10, by decide⟩
  let second : Pin := ⟨.b, 11, by decide⟩
  ([(first,
        [{ register := "T", function := some "TX", units := [7, 2] },
          { register := "N", units := [3] }]),
      (second, [{ register := "R", function := some "RX", units := [2, -1] }])],
    [(7, ⟨first, second⟩), (3, ⟨first, second⟩), (2, ⟨first, second⟩), (-1, ⟨first, second⟩)])

theorem half_connected_units_reported_of_shared_entry :
    let validator : Validator :=
      { kind := .uart, table := sharedEntries.1, lineDefaults := sharedEntries.2 }
    let sender : Pin × Kind := (⟨.b, 10, by decide⟩, .uart)
    let receiver : Pin × Kind := (⟨.b, 11, by decide⟩, .uart)
    let shown :=
      ["UART-1 has RX pin but no TX pin - transmit capability disabled",
        "UART7 has TX pin but no RX pin - receive capability disabled"]
    validator.setupWarnings [sender, receiver] = shown ∧
      validator.setupWarnings [receiver, sender] = shown ∧
      validator.setupWarnings ([sender, receiver] ++ [sender, sender]) = shown ∧
      validator.setupWarnings ([sender, receiver] ++ [(sender.1, .gpio)]) = shown := by
  intro validator sender receiver shown
  obtain ⟨⟨units, -, known, ascending, keys, -⟩, permuted, repeated, foreign⟩ :=
    half_connected_units_reported sharedEntries.1 sharedEntries.2 [sender, receiver]
  obtain rfl : units = [-1, 2, 3, 7] := by
    have rearranged : [7, 3, 2, -1].Perm [-1, 2, 3, 7] := by decide
    exact ascending.eq_of_mem_iff (by decide) fun unit => (keys unit).trans rearranged.mem_iff
  have warned : validator.setupWarnings [sender, receiver] = shown := by
    rw [setupWarnings, known]
    decide +kernel
  refine ⟨warned, (permuted _ (.swap _ _ [])).trans warned, (repeated _ ?_).trans warned,
    (foreign _ ?_).trans warned⟩
  · simp
  · simp

end Validator

end PinBudget
