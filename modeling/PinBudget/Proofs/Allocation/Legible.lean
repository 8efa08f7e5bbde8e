import PinBudget.Pin.Designation
import PinBudget.Usage.Event

/-!
Values that a registry can deal with. Integers with too many digits cannot be shown in a message,
and texts of too many digits cannot be read; every other value either names a pin or is refused with
a reason, and is a number or is none.
-/
namespace PinBudget

namespace Value

mutual

/-- All integers in a value. -/
def integers : Value → List Int
  | int value => [value]
  | list items | tuple items => integersAll items
  | mapping fields => integersFields fields
  | nil | bool _ | float _ | str _ | unresolved _ | pin _ => []

def integersAll : List Value → List Int
  | [] => []
  | item :: rest => item.integers ++ integersAll rest

def integersFields : List (String × Value) → List Int
  | [] => []
  | (_, item) :: rest => item.integers ++ integersFields rest

end

/-- No integer in the value has too many digits to be shown. -/
def Printable (value : Value) : Prop :=
  ∀ n ∈ value.integers, n.natAbs < Numeral.bound

theorem exists_shown_int {n : Int} (short : n.natAbs < Numeral.bound) :
    ∃ text, Numeral.shown n = .ok text :=
  ⟨_, if_pos short⟩

mutual

theorem exists_shown : ∀ value : Value, value.Printable → ∃ text, value.shown = .ok text
  | nil, _ | bool _, _ | float _, _ | str _, _ | unresolved _, _ | pin _, _ => ⟨_, rfl⟩
  | int value, printable => exists_shown_int (printable value (List.mem_singleton.mpr rfl))
  | list items, printable => by
    obtain ⟨texts, all⟩ := exists_shownAll items printable
    exact ⟨_, by rw [shown, all]; rfl⟩
  | tuple items, printable => by
    obtain ⟨texts, all⟩ := exists_shownAll items printable
    exact ⟨_, by rw [shown, all]; rfl⟩
  | mapping fields, printable => by
    obtain ⟨texts, all⟩ := exists_shownFields fields printable
    exact ⟨_, by rw [shown, all]; rfl⟩

theorem exists_shownAll : ∀ items : List Value,
    (∀ n ∈ integersAll items, n.natAbs < Numeral.bound) → ∃ texts, shownAll items = .ok texts
  | [], _ => ⟨[], rfl⟩
  | item :: rest, printable => by
    obtain ⟨own, others⟩ := List.forall_mem_append.mp printable
    obtain ⟨text, first⟩ := exists_shown item own
    obtain ⟨texts, further⟩ := exists_shownAll rest others
    exact ⟨text :: texts, by rw [shownAll, first, further]; rfl⟩

theorem exists_shownFields : ∀ fields : List (String × Value),
    (∀ n ∈ integersFields fields, n.natAbs < Numeral.bound) →
      ∃ texts, shownFields fields = .ok texts
  | [], _ => ⟨[], rfl⟩
  | (key, item) :: rest, printable => by
    obtain ⟨own, others⟩ := List.forall_mem_append.mp printable
    obtain ⟨text, first⟩ := exists_shown item own
    obtain ⟨texts, further⟩ := exists_shownFields rest others
    exact ⟨_ :: texts, by rw [shownFields, first, further]; rfl⟩

end

variable {value : Value}

theorem exists_text (printable : value.Printable) : ∃ text, value.text = .ok text := by
  cases value with
  | str _ | unresolved _ | pin _ => exact ⟨_, rfl⟩
  | _ => exact exists_shown _ printable

theorem exists_texts {items : List Value}
    (printable : ∀ n ∈ integersAll items, n.natAbs < Numeral.bound) :
    ∃ shown, texts items = .ok shown := by
  induction items with
  | nil => exact ⟨[], rfl⟩
  | cons item rest ih =>
    obtain ⟨own, others⟩ := List.forall_mem_append.mp printable
    obtain ⟨text, first⟩ := exists_text own
    obtain ⟨shown, further⟩ := ih others
    exact ⟨text :: shown, by rw [texts, first, further]; rfl⟩

theorem outline_of_single (single : value.items? = none) : value.outline = value.text := by
  rw [outline, single]

theorem exists_outline (printable : value.Printable) : ∃ text, value.outline = .ok text := by
  cases value with
  | list items | tuple items =>
    obtain ⟨shown, all⟩ := exists_texts printable
    exact ⟨_, by rw [outline, items?]; simp only [all]; rfl⟩
  | _ =>
    rw [outline_of_single rfl]
    exact exists_text printable

/-- The value can be shown, and as the text of a pin it has no more digits than can be read. -/
structure Legible (value : Value) : Prop where
  printable : value.Printable
  short : ∀ text, value = .str text → ∀ port digits,
    Pin.spelling? (Text.trim text.toList) = some (port, digits) → digits.length ≤ Fault.digitLimit

end Value

namespace Pin

variable {value : Value} {fault : Fault}

theorem refuse_error {error : String → PinError} (printable : value.Printable)
    (failed : refuse value error = .error fault) : ∃ reason, fault = .pin reason := by
  obtain ⟨text, shown⟩ := Value.exists_shown value printable
  rw [refuse, shown] at failed
  cases failed
  exact ⟨_, rfl⟩

theorem ofText_error {text : String}
    (short : ∀ port digits, spelling? (Text.trim text.toList) = some (port, digits) →
      digits.length ≤ Fault.digitLimit)
    (failed : ofText text = .error fault) : ∃ reason, fault = .pin reason := by
  unfold ofText at failed
  split at failed
  · cases failed
    exact ⟨_, rfl⟩
  · rename_i port digits spelled
    have few := short port digits spelled
    rw [Numeral.ofDigits, if_neg (by omega)] at failed
    simp only at failed
    split at failed
    · cases failed
    · cases failed
      exact ⟨_, rfl⟩

theorem ofIndex_error {index : Int} (short : index.natAbs < Numeral.bound)
    (failed : ofIndex index = .error fault) : ∃ reason, fault = .pin reason := by
  obtain ⟨text, shown⟩ := Value.exists_shown_int short
  unfold ofIndex at failed
  split at failed
  · cases failed
  · rw [shown] at failed
    cases failed
    exact ⟨_, rfl⟩

theorem ofItems_error {items : List Value} (printable : (Value.list items).Printable)
    (failed : ofItems items = .error fault) : ∃ reason, fault = .pin reason := by
  unfold ofItems at failed
  split at failed
  · exact refuse_error printable failed
  · split at failed
    · exact refuse_error printable failed
    · split at failed
      · cases failed
      · exact refuse_error printable failed

/-- A value that a registry can deal with names a pin or is refused with a reason. -/
theorem ofValue_error (legible : value.Legible) (failed : ofValue value = .error fault) :
    ∃ reason, fault = .pin reason := by
  cases value with
  | pin pin => cases failed
  | str text => exact ofText_error (legible.short text rfl) failed
  | int index => exact ofIndex_error (legible.printable index (List.mem_singleton.mpr rfl)) failed
  | list items | tuple items => exact ofItems_error legible.printable failed
  | nil | bool _ | float _ | mapping _ | unresolved _ => exact refuse_error legible.printable failed

end Pin

namespace Text

theorem decimalValue?_le {c : Char} {value : Nat} (digit : decimalValue? c = some value) :
    value ≤ 9 := by
  obtain ⟨base, found, rfl⟩ := Option.map_eq_some_iff.mp digit
  have within := List.find?_some found
  simp only [Bool.and_eq_true, decide_eq_true_eq] at within
  omega

theorem foldl_decimal_lt (digits : List Char) (start : Nat) :
    digits.foldl (fun number c => 10 * number + (decimalValue? c).getD 0) start <
      (start + 1) * Nat.pow 10 digits.length := by
  induction digits generalizing start with
  | nil => simp
  | cons c rest ih =>
    have small : (decimalValue? c).getD 0 ≤ 9 := by
      cases digit : decimalValue? c with
      | none => exact Nat.zero_le 9
      | some value => exact decimalValue?_le digit
    have room : 10 * start + (decimalValue? c).getD 0 + 1 ≤ (start + 1) * 10 := by omega
    calc rest.foldl _ (10 * start + (decimalValue? c).getD 0)
        < (10 * start + (decimalValue? c).getD 0 + 1) * Nat.pow 10 rest.length := ih _
      _ ≤ (start + 1) * 10 * Nat.pow 10 rest.length := Nat.mul_le_mul_right _ room
      _ = (start + 1) * Nat.pow 10 (rest.length + 1) := by
        rw [Nat.mul_assoc, Nat.mul_comm 10]
        rfl

theorem decimalNumber_lt (digits : List Char) :
    decimalNumber digits < Nat.pow 10 digits.length := by
  have bounded := foldl_decimal_lt digits 0
  rwa [Nat.zero_add, Nat.one_mul] at bounded

end Text

namespace Numeral

variable {digits text : List Char}

theorem lt_bound_of_ofDigits {number : Nat} (read : ofDigits digits = .ok number) :
    number < bound := by
  unfold ofDigits at read
  split at read
  · cases read
  · rename_i few
    cases read
    have monotone {size limit : Nat} (le : size ≤ limit) : Nat.pow 10 size ≤ Nat.pow 10 limit :=
      Nat.pow_le_pow_right (by decide) le
    unfold bound
    exact Nat.lt_of_lt_of_le (Text.decimalNumber_lt digits) (monotone (Nat.le_of_not_lt few))

theorem lt_bound_of_ofDigitSigns {n : Int} (read : ofDigitSigns text = .ok n) :
    n.natAbs < bound := by
  unfold ofDigitSigns at read
  simp only at read
  split at read
  · cases read
  · rename_i number own
    split at read
    · cases read
      exact lt_bound_of_ofDigits own
    · cases read

end Numeral

namespace Value

variable {value : Value}

theorem lt_bound_of_asInt? {n : Int} (printable : value.Printable)
    (read : value.asInt? = .ok (some n)) : n.natAbs < Numeral.bound := by
  cases value with
  | int own =>
    cases read
    exact printable n (List.mem_singleton.mpr rfl)
  | str text =>
    unfold asInt? at read
    simp only at read
    split at read
    · cases number : Numeral.ofDigitSigns text.toList with
      | error fault =>
        rw [number] at read
        cases read
      | ok own =>
        rw [number] at read
        cases read
        exact Numeral.lt_bound_of_ofDigitSigns number
    · cases read
  | _ => cases read

end Value

end PinBudget
