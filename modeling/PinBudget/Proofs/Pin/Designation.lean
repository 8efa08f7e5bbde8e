import PinBudget.Proofs.Allocation.Legible
import PinBudget.Proofs.Text.Blank

/-!
Which values name a pin. A pin names itself, a number its place in the flat numbering, a pair its
port and its number there, and a text spells the same two. A value of such a shape that names no pin
of the board is beyond it; every other value is malformed.
-/
namespace PinBudget

/-- The letter of a port in either case. -/
def Port.letters : Port → List Char
  | a => ['A', 'a']
  | b => ['B', 'b']

/-- The register letter that may stand before a port, in either case. -/
def Pin.registers : List (List Char) := [[], ['R'], ['r']]

/-- Without the blanks around it, the text is the letter of a port with decimal digits behind it
that stand for a number, and perhaps a register letter before it. -/
def Pin.Spells (text : String) (port : Port) (number : Nat) : Prop :=
  ∃ register ∈ registers, ∃ letter ∈ port.letters, ∃ digits ≠ [],
    Text.trim text.toList = register ++ letter :: digits ∧
      (∀ c ∈ digits, Text.isDecimal c = true) ∧ Text.decimalNumber digits = number

namespace Value

/-- The value points at a place, whether or not the board has a pin there: a whole number, two
natural numbers, or the text of a port and a number. -/
inductive Points : Value → Prop where
  | index (n : Int) : Points (.int n)
  | pair {value : Value} (port number : Nat)
      (items : value.items? = some [.int port, .int number]) : Points value
  | text {text : String} (port : Port) (number : Nat) (spelled : Pin.Spells text port number) :
      Points (.str text)

/-- The value names a pin. -/
inductive Designates : Value → Pin → Prop where
  | pin (pin : Pin) : Designates (.pin pin) pin
  | index (pin : Pin) : Designates (.int pin.flatIndex) pin
  | pair {value : Value} (pin : Pin)
      (items : value.items? = some [.int pin.port.number, .int pin.number]) : Designates value pin
  | text {text : String} (pin : Pin) (spelled : Pin.Spells text pin.port pin.number) :
      Designates (.str text) pin

/-- The value holds no integer that has too many digits to be written and, as a text, no run of
decimal digits that is too long to be read. -/
structure Short (value : Value) : Prop where
  integers : value.Printable
  runs : ∀ text, value = .str text → ∀ run, run <:+: text.toList →
    (∀ c ∈ run, Text.isDecimal c = true) → run.length ≤ Fault.digitLimit

end Value

namespace Port

variable {port : Port}

theorem ofLetter?_eq_some_iff {c : Char} : ofLetter? c = some port ↔ c ∈ port.letters := by
  unfold ofLetter? letters
  cases port <;> grind

theorem ofNumber?_eq_some_iff {number : Int} :
    ofNumber? number = some port ↔ number = port.number := by
  unfold ofNumber? all Port.number
  cases port <;> grind

end Port

namespace Pin

variable {pin : Pin} {port : Port} {number : Nat} {text : String}

theorem ofNumber?_eq_some_iff :
    ofNumber? port number = some pin ↔ pin.port = port ∧ pin.number = number := by
  obtain ⟨own, place, inRange⟩ := pin
  unfold ofNumber?
  grind

theorem mem_all (pin : Pin) : pin ∈ all := by
  obtain ⟨port, number, inRange⟩ := pin
  refine List.mem_flatMap.mpr ⟨port, by cases port <;> decide, ?_⟩
  exact List.mem_map.mpr ⟨⟨number, inRange⟩, List.mem_finRange _, rfl⟩

theorem flatIndex_injective : Function.Injective flatIndex := by
  rintro ⟨port, number, inRange⟩ ⟨other, partner, inRangeOther⟩ same
  unfold flatIndex Port.size at same
  unfold Port.size at inRange inRangeOther
  cases port <;> cases other <;> grind

theorem ofFlatIndex?_eq_some_iff {index : Int} :
    ofFlatIndex? index = some pin ↔ index = pin.flatIndex := by
  constructor
  · intro found
    have here := List.find?_some found
    simpa using (beq_iff_eq.mp here).symm
  · rintro rfl
    cases found : ofFlatIndex? (pin.flatIndex : Int) with
    | none =>
      have absent := List.find?_eq_none.mp found pin (mem_all pin)
      simp at absent
    | some other =>
      have here := beq_iff_eq.mp (List.find?_some (p := fun own : Pin =>
        (own.flatIndex : Int) == (pin.flatIndex : Int)) found)
      rw [flatIndex_injective (Int.ofNat.inj here)]

theorem pair?_eq_some_iff {items : List Value} {port number : Nat} :
    pair? items = some (port, number) ↔ items = [.int port, .int number] := by
  unfold pair?
  split
  · split <;> grind
  · grind

/-- What is read as the spelling of a pin has its shape. -/
theorem spelling?_eq_some_iff {text digits : List Char} : spelling? text = some (port, digits) ↔
    ∃ register ∈ registers, ∃ letter ∈ port.letters, digits ≠ [] ∧
      text = register ++ letter :: digits ∧ ∀ c ∈ digits, Text.isDecimal c = true := by
  constructor
  · intro spelled
    unfold spelling? at spelled
    dsimp only at spelled
    split at spelled
    · cases spelled
    · rename_i letter others body
      have front : ∃ register ∈ registers, text = register ++ letter :: others := by
        split at body
        · rename_i c rest
          by_cases register : c = 'R' ∨ c = 'r'
          · refine ⟨[c], by rcases register with rfl | rfl <;> decide, ?_⟩
            simpa [register] using body
          · exact ⟨[], by decide, by simpa [register] using body⟩
        · cases body
      obtain ⟨register, allowed, rfl⟩ := front
      split at spelled
      · cases spelled
      · rename_i own named
        split at spelled
        · rename_i shape
          cases spelled
          obtain ⟨filled, all⟩ := Bool.and_eq_true_iff.mp shape
          exact ⟨register, allowed, letter, Port.ofLetter?_eq_some_iff.mp named,
            by simpa using filled, rfl, List.all_eq_true.mp all⟩
        · cases spelled
  · rintro ⟨register, allowed, letter, own, filled, rfl, decimal⟩
    have named := Port.ofLetter?_eq_some_iff.mpr own
    have shape : (!digits.isEmpty && digits.all Text.isDecimal) = true := by
      simpa [filled] using decimal
    have plain : letter ≠ 'R' ∧ letter ≠ 'r' := by
      unfold Port.letters at own
      cases port <;> grind
    simp only [registers, List.mem_cons, List.not_mem_nil, or_false] at allowed
    rcases allowed with rfl | rfl | rfl <;> simp [spelling?, plain, named, shape]

theorem spells_iff : Spells text port number ↔ ∃ digits,
    spelling? (Text.trim text.toList) = some (port, digits) ∧
      Text.decimalNumber digits = number := by
  simp only [spelling?_eq_some_iff, Spells]
  grind

theorem refuse_eq {value : Value} (printable : value.Printable) (error : String → PinError) :
    ∃ shown, refuse value error = .error (.pin (error shown)) := by
  obtain ⟨shown, own⟩ := Value.exists_shown value printable
  exact ⟨shown, by rw [refuse, own]⟩

end Pin

namespace Value

variable {value : Value} {pin : Pin} {text : String} {items : List Value}

theorem designates_str_iff :
    (str text).Designates pin ↔ Pin.Spells text pin.port pin.number := by
  refine ⟨fun names => ?_, .text pin⟩
  cases names with
  | pair _ items => cases items
  | text _ spelled => exact spelled

theorem points_str_iff : (str text).Points ↔ ∃ port number, Pin.Spells text port number := by
  refine ⟨fun points => ?_, fun ⟨port, number, spelled⟩ => .text port number spelled⟩
  cases points with
  | pair _ _ items => cases items
  | text port number spelled => exact ⟨port, number, spelled⟩

theorem designates_int_iff {n : Int} : (int n).Designates pin ↔ n = pin.flatIndex := by
  constructor
  · intro names
    cases names with
    | index => rfl
    | pair _ items => cases items
  · rintro rfl
    exact .index pin

theorem designates_items_iff (own : value.items? = some items) :
    value.Designates pin ↔ items = [.int pin.port.number, .int pin.number] := by
  constructor
  · intro names
    cases names with
    | pair _ same => exact Option.some.inj (own.symm.trans same)
    | pin | index | text => cases own
  · rintro rfl
    exact .pair pin own

theorem points_items_iff (own : value.items? = some items) :
    value.Points ↔ ∃ port number : Nat, items = [.int port, .int number] := by
  constructor
  · intro points
    cases points with
    | pair port number same => exact ⟨port, number, Option.some.inj (own.symm.trans same)⟩
    | index | text => cases own
  · rintro ⟨port, number, rfl⟩
    exact .pair port number own

/-- What reading a value as a pin comes to: the one pin that it names, or a refusal of one of two
kinds. -/
inductive Classified (value : Value) : Except Fault Pin → Prop where
  | named {pin : Pin} (names : ∀ other, value.Designates other ↔ other = pin) :
      Classified value (.ok pin)
  | beyond {error : PinError} (points : value.Points) (nowhere : ∀ pin, ¬value.Designates pin)
      (kind : error.issueKind = .pinOutOfRange) : Classified value (.error (.pin error))
  | malformed {error : PinError} (shapeless : ¬value.Points)
      (nowhere : ∀ pin, ¬value.Designates pin) (kind : error.issueKind = .invalidPinFormat) :
      Classified value (.error (.pin error))

theorem classified_ofText (short : (str text).Short) : (str text).Classified (Pin.ofText text) := by
  unfold Pin.ofText
  cases spelled : Pin.spelling? (Text.trim text.toList) with
  | none =>
    have nothing (port : Port) (number : Nat) : ¬Pin.Spells text port number := by
      simp [Pin.spells_iff, spelled]
    refine .malformed ?_ ?_ rfl
    · rw [points_str_iff]
      rintro ⟨port, number, own⟩
      exact nothing port number own
    · exact fun pin names => nothing _ _ (designates_str_iff.mp names)
  | some place =>
    obtain ⟨port, digits⟩ := place
    have few : digits.length ≤ Fault.digitLimit := by
      obtain ⟨register, _, letter, _, _, split, decimal⟩ := Pin.spelling?_eq_some_iff.mp spelled
      refine short.runs text rfl digits ?_ decimal
      have suffix : digits <:+ Text.trim text.toList :=
        split ▸ (List.suffix_cons letter digits).trans (List.suffix_append register _)
      exact suffix.isInfix.trans (Text.trim_infix text.toList)
    have names (pin : Pin) : (str text).Designates pin ↔
        Pin.ofNumber? port (Text.decimalNumber digits) = some pin := by
      rw [designates_str_iff, Pin.spells_iff, Pin.ofNumber?_eq_some_iff, spelled]
      grind
    dsimp only
    rw [Numeral.ofDigits, if_neg (by omega)]
    dsimp only
    cases found : Pin.ofNumber? port (Text.decimalNumber digits) with
    | none =>
      refine .beyond ?_ ?_ rfl
      · exact .text port _ (Pin.spells_iff.mpr ⟨digits, spelled, rfl⟩)
      · intro pin own
        rw [names, found] at own
        cases own
    | some pin =>
      refine .named fun other => ?_
      rw [names, found, Option.some_inj, eq_comm]

theorem classified_ofIndex {n : Int} (short : n.natAbs < Numeral.bound) :
    (int n).Classified (Pin.ofIndex n) := by
  unfold Pin.ofIndex
  obtain ⟨text, shown⟩ := exists_shown_int short
  cases found : Pin.ofFlatIndex? n with
  | none =>
    rw [shown]
    refine .beyond (.index n) ?_ rfl
    intro pin own
    rw [designates_int_iff, ← Pin.ofFlatIndex?_eq_some_iff, found] at own
    cases own
  | some pin =>
    refine .named fun other => ?_
    rw [designates_int_iff, ← Pin.ofFlatIndex?_eq_some_iff, found, Option.some_inj, eq_comm]

theorem classified_ofItems (own : value.items? = some items) (printable : (list items).Printable) :
    value.Classified (Pin.ofItems items) := by
  unfold Pin.ofItems
  cases paired : Pin.pair? items with
  | none =>
    have nothing (port number : Nat) : items ≠ [.int port, .int number] := by
      intro same
      rw [Pin.pair?_eq_some_iff.mpr same] at paired
      cases paired
    obtain ⟨shown, refused⟩ := Pin.refuse_eq printable .malformedPair
    dsimp only
    rw [refused]
    refine .malformed ?_ ?_ rfl
    · rw [points_items_iff own]
      rintro ⟨port, number, same⟩
      exact nothing port number same
    · intro pin names
      exact nothing _ _ ((designates_items_iff own).mp names)
  | some pair =>
    obtain ⟨first, number⟩ := pair
    have shape := Pin.pair?_eq_some_iff.mp paired
    have points : value.Points := (points_items_iff own).mpr ⟨first, number, shape⟩
    have names (pin : Pin) : value.Designates pin ↔
        ∃ port, Port.ofNumber? first = some port ∧ Pin.ofNumber? port number = some pin := by
      rw [designates_items_iff own, shape]
      simp only [Port.ofNumber?_eq_some_iff, Pin.ofNumber?_eq_some_iff]
      grind
    dsimp only
    cases named : Port.ofNumber? first with
    | none =>
      obtain ⟨shown, refused⟩ := Pin.refuse_eq printable .pairWithoutPort
      dsimp only
      rw [refused]
      exact .beyond points (fun pin own => by simp [names, named] at own) rfl
    | some port =>
      dsimp only
      cases found : Pin.ofNumber? port number with
      | none =>
        obtain ⟨shown, refused⟩ := Pin.refuse_eq printable .pairBeyondPort
        dsimp only
        rw [refused]
        exact .beyond points (fun pin own => by simp [names, named, found] at own) rfl
      | some pin =>
        refine .named fun other => ?_
        simp [names, named, found, eq_comm]

/-- Every value that is not too long is classified by its shape. -/
theorem classified_ofValue (short : value.Short) : value.Classified (Pin.ofValue value) := by
  have printable : value.Printable := short.integers
  cases value with
  | pin pin =>
    refine .named fun other => ⟨fun names => ?_, fun same => same ▸ .pin other⟩
    cases names with
    | pin => rfl
    | pair _ items => cases items
  | str text => exact classified_ofText short
  | int n => exact classified_ofIndex (printable n (List.mem_singleton.mpr rfl))
  | list items | tuple items => exact classified_ofItems rfl printable
  | nil | bool _ | float _ | mapping _ | unresolved _ =>
    obtain ⟨shown, refused⟩ := Pin.refuse_eq printable .unsupported
    rw [Pin.ofValue, refused]
    refine .malformed ?_ ?_ rfl
    · intro points
      cases points with
      | pair _ _ items => cases items
    · intro pin names
      cases names with
      | pair _ items => cases items

/-- Reading the value as a pin is refused with an error of the kind. -/
def RefusedAs (kind : IssueKind) (value : Value) : Prop :=
  ∃ error : PinError, Pin.ofValue value = .error (.pin error) ∧ error.issueKind = kind

/-- A value is read as the pin that it names. It is refused as beyond the board exactly if it points
at a place where the board has no pin, and as malformed exactly if it neither names a pin nor points
anywhere. -/
theorem read_by_designation (value : Value) (short : value.Short) :
    (∀ pin, Pin.ofValue value = .ok pin ↔ value.Designates pin) ∧
      (value.RefusedAs .pinOutOfRange ↔ value.Points ∧ ∀ pin, ¬value.Designates pin) ∧
      (value.RefusedAs .invalidPinFormat ↔ ¬value.Points ∧ ∀ pin, ¬value.Designates pin) := by
  have classified := classified_ofValue short
  unfold RefusedAs
  generalize Pin.ofValue value = outcome at classified
  cases classified with
  | named names => simp [names, eq_comm]
  | beyond points nowhere kind => simp [points, nowhere, kind]
  | malformed shapeless nowhere kind => simp [shapeless, nowhere, kind]

theorem read_by_designation_of_mixed_digits :
    let value := Value.str " rB\u06607\t"
    value.Short ∧ Pin.ofValue value = .ok ⟨.b, 7, by decide⟩ ∧
      (∀ pin, Pin.ofValue value = .ok pin ↔ value.Designates pin) ∧
      (value.RefusedAs .pinOutOfRange ↔ value.Points ∧ ∀ pin, ¬value.Designates pin) ∧
      (value.RefusedAs .invalidPinFormat ↔ ¬value.Points ∧ ∀ pin, ¬value.Designates pin) := by
  intro value
  have short : value.Short := by
    refine ⟨nofun, ?_⟩
    intro text same run part _
    obtain rfl := Value.str.inj same
    exact Nat.le_trans part.length_le (by decide)
  exact ⟨short, rfl, read_by_designation value short⟩

end Value

end PinBudget
