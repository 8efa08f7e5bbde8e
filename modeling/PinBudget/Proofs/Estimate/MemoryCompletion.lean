import PinBudget.Proofs.Config.Typed
import PinBudget.Proofs.Estimate.MemoryTotals
import PinBudget.Proofs.Source.Extent

/-!
When the memory estimate completes. With whole costs it charges whole numbers only, no more than the
text has room for, so the totals can be written; what is left to fail is the limit that a message
shows.
-/
namespace PinBudget

open Source

variable {costs : Section MemoryKey} {config : Config}

/-- Every cost is a whole number within the doubles. -/
def WholeCosts (costs : Section MemoryKey) : Prop :=
  ∀ key, key.isCost → SettingType.whole.Admits (costs key)

theorem Config.Typed.wholeCosts (typed : config.Typed) : WholeCosts config.memory := by
  intro key cost
  have own := typed (.memory key)
  cases key <;> first | exact own | cases cost

namespace ValueShape

/-- The characters or commas that the cost of a shape grows with. -/
def size : ValueShape → Nat
  | quoted length => length
  | array commas | hash commas => commas
  | integer | floating | object | other => 0

theorem size_ofText_le (text : List Char) : (ofText text).size ≤ text.length := by
  have trimmed := Text.length_trim_le text
  have commas : (Text.trim text).count ',' ≤ (Text.trim text).length := List.count_le_length
  rw [ofText, ofTrimmed]
  repeat' split
  all_goals simp only [size]; omega

theorem exists_textCost (whole : WholeCosts costs) (length : Nat) :
    ∃ n : Int, textCost costs length = .ok (.int n) ∧ n.natAbs ≤ (length + 1) * Number.reach := by
  obtain ⟨overhead, own, fits⟩ := whole .textOverhead rfl
  refine ⟨length + overhead, by rw [textCost, own]; rfl, ?_⟩
  have least : length ≤ length * Number.reach := Nat.le_mul_of_pos_right _ Number.reach_pos
  have below := fits.lt
  rw [Nat.succ_mul]
  omega

theorem exists_perComma {base item : Json} (first : SettingType.whole.Admits base)
    (each : SettingType.whole.Admits item) (commas : Nat) :
    ∃ n : Int, perComma base item commas = .ok (.int n) ∧
      n.natAbs ≤ (commas + 1) * Number.reach := by
  obtain ⟨start, rfl, fits⟩ := first
  obtain ⟨more, rfl, also⟩ := each
  refine ⟨start + commas * more, rfl, ?_⟩
  have product : (commas * more : Int).natAbs ≤ commas * Number.reach := by
    rw [Int.natAbs_mul, Int.natAbs_natCast]
    exact Nat.mul_le_mul_left _ also.lt.le
  have sum := Int.natAbs_add_le start (commas * more)
  have below := fits.lt
  rw [Nat.succ_mul]
  omega

theorem exists_cost (whole : WholeCosts costs) (shape : ValueShape) :
    ∃ n : Int, shape.cost costs = .ok (.int n) ∧ n.natAbs ≤ (shape.size + 1) * Number.reach := by
  have plain (key : MemoryKey) (cost : key.isCost) :
      ∃ n : Int, (.ok (costs key) : Except Fault Json) = .ok (.int n) ∧
        n.natAbs ≤ (0 + 1) * Number.reach := by
    obtain ⟨n, same, fits⟩ := whole key cost
    refine ⟨n, congrArg _ same, ?_⟩
    rw [Nat.zero_add, Nat.one_mul]
    exact fits.lt.le
  cases shape with
  | integer => exact plain .integer rfl
  | floating => exact plain .floating rfl
  | object => exact plain .object rfl
  | other => exact plain .other rfl
  | quoted length =>
    obtain ⟨n, same, small⟩ := exists_textCost whole length
    exact ⟨n, by rw [cost, same]; rfl, small⟩
  | array commas => exact exists_perComma (whole .arrayBase rfl) (whole .arrayItem rfl) commas
  | hash commas => exact exists_perComma (whole .hashBase rfl) (whole .hashItem rfl) commas

end ValueShape

/-- Charges that are whole numbers of at most a size. -/
def Within (most : Nat) (charges : List (Except Fault Number)) : Prop :=
  ∀ charge ∈ charges, ∃ n : Int, charge = .ok (.int n) ∧ n.natAbs ≤ most

namespace Within

variable {most more : Nat} {charges further : List (Except Fault Number)}

theorem mono (within : Within most charges) (larger : most ≤ more) : Within more charges := by
  intro charge member
  obtain ⟨n, same, small⟩ := within charge member
  exact ⟨n, same, small.trans larger⟩

theorem exists_total (within : Within most charges) :
    ∃ n : Int, MemoryEstimate.total charges = .ok (.int n) ∧
      n.natAbs ≤ charges.length * most := by
  suffices adds : ∀ start : Int, ∃ n : Int,
      charges.foldlM (fun sum charge => do Number.add sum (← charge)) (Number.int start) =
        .ok (.int n) ∧ n.natAbs ≤ start.natAbs + charges.length * most by
    simpa [MemoryEstimate.total] using adds 0
  induction charges with
  | nil => exact fun start => ⟨start, rfl, Nat.le_add_right ..⟩
  | cons charge rest ih =>
    intro start
    obtain ⟨⟨part, same, small⟩, others⟩ := List.forall_mem_cons.mp within
    obtain ⟨n, added, bounded⟩ := ih others (start + part)
    refine ⟨n, ?_, ?_⟩
    · rw [List.foldlM_cons, same]
      exact added
    · have sum := Int.natAbs_add_le start part
      rw [List.length_cons, Nat.succ_mul]
      omega

end Within

namespace LineMemory

/-- The most that one charge of a line can be. -/
def largest (length : Nat) : Nat :=
  (length + 1) * Number.reach

theorem within_setting (whole : WholeCosts costs) {key : MemoryKey} (cost : key.isCost)
    (length : Nat) :
    ∃ n : Int, Config.number (costs key) = .ok (.int n) ∧ n.natAbs ≤ largest length := by
  obtain ⟨n, same, fits⟩ := whole key cost
  refine ⟨n, by rw [same]; rfl, fits.lt.le.trans ?_⟩
  exact Nat.le_mul_of_pos_left _ (Nat.succ_pos length)

theorem within_assignmentCharges (whole : WholeCosts costs) (code : CodeLine) :
    Within (largest code.text.length) ((ofCode code).assignmentCharges costs) := by
  intro charge member
  obtain ⟨right, given, rfl⟩ := List.mem_map.mp member
  obtain ⟨⟨target, right⟩, assigned, rfl⟩ := Option.map_eq_some_iff.mp (Option.mem_toList.mp given)
  obtain ⟨n, same, small⟩ := ValueShape.exists_cost whole (.ofText right)
  have size := (ValueShape.size_ofText_le right).trans (assigned_suffix assigned).length_le
  refine ⟨n, by rw [valueCost, same]; rfl, small.trans ?_⟩
  exact Nat.mul_le_mul_right _ (Nat.succ_le_succ size)

theorem length_content_le {quote : Char} {text content after : List Char}
    (read : quotedContent? quote text = some (content, after)) : content.length ≤ text.length := by
  fun_induction quotedContent? quote text generalizing content with
  | case1 | case2 | case5 => cases read
  | case3 c rest _ ih | case6 c rest _ _ _ ih =>
    obtain ⟨⟨inner, behind⟩, own, same⟩ := Option.map_eq_some_iff.mp read
    cases same
    have := ih own
    simp only [List.length_cons]
    omega
  | case4 =>
    cases read
    exact Nat.zero_le _

theorem within_textCharges (whole : WholeCosts costs) (code : CodeLine) :
    Within (largest code.text.length) ((ofCode code).textCharges costs) := by
  intro charge member
  obtain ⟨content, listed, rfl⟩ := List.mem_map.mp member
  obtain ⟨found, occurs, rfl⟩ := List.mem_map.mp listed
  obtain ⟨front, rest, after, suffix, read⟩ := exists_suffix_of_mem occurs
  have inside : found.value.length ≤ code.text.length := by
    refine le_trans ?_ suffix.length_le
    unfold quotedText at read
    split at read
    · cases read
    · split at read
      · exact (length_content_le read).trans (Nat.le_succ _)
      · cases read
  obtain ⟨n, same, small⟩ := ValueShape.exists_textCost whole found.value.length
  exact ⟨n, same, small.trans (Nat.mul_le_mul_right _ (Nat.succ_le_succ inside))⟩

theorem within_charges (whole : WholeCosts costs) (code : CodeLine) :
    Within (largest code.text.length) ((ofCode code).charges costs) := by
  intro charge member
  simp only [charges, List.mem_append, dueIf] at member
  rcases member with (((assigned | quoted) | array) | hash) | object
  · exact within_assignmentCharges whole code charge assigned
  · exact within_textCharges whole code charge quoted
  · split at array
    · cases List.mem_singleton.mp array
      exact within_setting whole rfl _
    · cases array
  · split at hash
    · cases List.mem_singleton.mp hash
      exact within_setting whole rfl _
    · cases hash
  · obtain ⟨_, _, rfl⟩ := List.mem_map.mp object
    exact within_setting whole rfl _

theorem length_dueIf_le (condition : Bool) (setting : Json) :
    (dueIf condition setting).length ≤ 1 := by
  unfold dueIf
  split
  · exact Nat.le_refl 1
  · exact Nat.zero_le 1

theorem length_textCharges_le (code : CodeLine) :
    ((ofCode code).textCharges costs).length ≤ code.text.length := by
  rw [textCharges, List.length_map]
  exact length_matchesOf_le _

theorem length_charges_le (code : CodeLine) :
    ((ofCode code).charges costs).length ≤ 3 * (code.text.length + 1) := by
  have assigned : ((ofCode code).assignmentCharges costs).length ≤ 1 := by
    rw [assignmentCharges, List.length_map]
    exact Option.length_toList_le
  have objects : (ofCode code).objects.length ≤ code.text.length :=
    (length_matchesOf_le _).trans (length_mask code.text).le
  have texts : ((ofCode code).textCharges costs).length ≤ code.text.length :=
    length_textCharges_le code
  have array := length_dueIf_le (ofCode code).hasArray (costs .arrayLine)
  have hash := length_dueIf_le (ofCode code).hasHash (costs .hashLine)
  simp only [charges, List.length_append, List.length_map]
  omega

end LineMemory

namespace MemoryEstimate

theorem length_flatMap_le {charges : LineMemory → List (Except Fault Number)} {codes : List CodeLine}
    (few : ∀ code ∈ codes, (charges (.ofCode code)).length ≤ 3 * (code.text.length + 1)) :
    ((codes.map LineMemory.ofCode).flatMap charges).length ≤
      3 * extent (codes.map CodeLine.text) := by
  induction codes with
  | nil => exact Nat.zero_le _
  | cons code rest ih =>
    obtain ⟨own, others⟩ := List.forall_mem_cons.mp few
    have later := ih others
    rw [List.map_cons, List.flatMap_cons, List.length_append, List.map_cons, extent_cons]
    omega

/-- The charges of a text that are whole numbers are no larger than the text has room for. -/
theorem within_linesOf {charges : LineMemory → List (Except Fault Number)}
    (within : ∀ code : CodeLine, Within (LineMemory.largest code.text.length) (charges (.ofCode code)))
    (text : String) :
    Within (LineMemory.largest (extent ((codeLines text.toList).map CodeLine.text)))
      ((linesOf text).flatMap charges) := by
  intro charge member
  obtain ⟨shown, line, listed⟩ := List.mem_flatMap.mp member
  obtain ⟨code, found, rfl⟩ := List.mem_map.mp line
  refine (within code).mono (Nat.mul_le_mul_right _ ?_) charge listed
  have inside := length_lt_extent (List.mem_map_of_mem (f := CodeLine.text) found)
  omega

/-- The charges of a text that are whole numbers come to one that can be written. -/
theorem exists_total {text : String} (short : text.length < 2 ^ 63)
    {charges : LineMemory → List (Except Fault Number)}
    (within : ∀ code : CodeLine, Within (LineMemory.largest code.text.length) (charges (.ofCode code)))
    (few : ∀ code : CodeLine, (charges (.ofCode code)).length ≤ 3 * (code.text.length + 1)) :
    ∃ n : Int, total ((linesOf text).flatMap charges) = .ok (.int n) ∧
      n.natAbs < Numeral.bound := by
  have extent_le := extent_codeLines text.toList
  rw [String.length_toList] at extent_le
  have all : Within (2 ^ 64 * Number.reach) ((linesOf text).flatMap charges) := by
    refine (within_linesOf within text).mono (Nat.mul_le_mul_right _ ?_)
    omega
  obtain ⟨n, added, small⟩ := all.exists_total
  refine ⟨n, added, small.trans_lt ?_⟩
  have count := length_flatMap_le fun code (_ : code ∈ codeLines text.toList) => few code
  have many : ((linesOf text).flatMap charges).length ≤ 2 ^ 65 := count.trans (by omega)
  have room : 2 ^ 65 * (2 ^ 64 * Number.reach) < Numeral.bound := by decide +kernel
  exact (Nat.mul_le_mul_right _ many).trans_lt room

theorem exists_ramBytes (whole : WholeCosts config.memory) {text sourceId : String}
    {estimate : MemoryEstimate} (estimated : ofSource config text sourceId = .ok estimate) :
    ∃ bytes, estimate.ramBytes = .int bytes := by
  obtain ⟨bytes, added, _⟩ := (within_linesOf (LineMemory.within_charges whole) text).exists_total
  exact ⟨bytes, Except.ok.inj ((addsUp_of_ofLines estimated).ramBytes.symm.trans added)⟩

variable {n : Int}

theorem completes_ramFindings_iff (typed : config.Typed) (written : n.natAbs < Numeral.bound)
    (sourceId : String) :
    Completes (ramFindings config sourceId (.int n)) ↔ Config.Reachable config.ramErrorBytes := by
  obtain ⟨limit, limited, brief⟩ := typed.exists_ramErrorBytes
  obtain ⟨warning, warned⟩ := typed.exists_ramWarningBytes
  obtain ⟨used, shown⟩ := Number.exists_shown_int written
  rw [Config.reachable_iff limited, ramFindings, completes_bind limited,
    completes_bind (Config.number_number limit)]
  by_cases crossed : limit.less (.int n) = true
  · rw [if_pos crossed, completes_bind shown]
    exact Number.completes_written_iff brief crossed _
  · have floor : ¬limit.IsBottom := fun bottom => crossed (Number.less_of_isBottom bottom n)
    rw [if_neg crossed, completes_bind warned, completes_bind (Config.number_number warning)]
    refine iff_of_true ?_ floor
    exact completes_ite (Completes.bind ⟨used, shown⟩ fun _ => completes_pure _) (completes_pure _)

theorem completes_registerFindings (typed : config.Typed) (sourceId : String) (count : Nat) :
    Completes (registerFindings config sourceId count) := by
  have limit : SettingType.whole.Admits (config.hardware .registerLimit) :=
    typed (.hardware .registerLimit)
  refine (Config.completes_above (Config.number_of_whole limit) (.int count)).bind fun _ => ?_
  exact completes_ite ((Config.completes_display limit).bind fun _ => completes_pure _)
    (completes_pure _)

theorem completes_textFindings (typed : config.Typed) (written : n.natAbs < Numeral.bound)
    (sourceId : String) : Completes (textFindings config sourceId (.int n)) := by
  have limit : SettingType.whole.Admits (config.memory .textLimit) := typed (.memory .textLimit)
  have shown : Completes (Number.int n).shown := Number.exists_shown_int written
  refine (Config.completes_above (Config.number_of_whole limit) (.int n)).bind fun _ => ?_
  exact completes_ite (shown.bind fun _ => completes_pure _) (completes_pure _)

/-- The memory estimate completes exactly if whole numbers can lie below the limit on RAM. -/
theorem completes_ofSource_iff (typed : config.Typed) {text : String} (short : text.length < 2 ^ 63)
    (sourceId : String) :
    Completes (ofSource config text sourceId) ↔ Config.Reachable config.ramErrorBytes := by
  have whole := typed.wholeCosts
  obtain ⟨ram, added, written⟩ := exists_total short (LineMemory.within_charges whole)
    LineMemory.length_charges_le
  obtain ⟨texts, alsoAdded, alsoWritten⟩ := exists_total short (LineMemory.within_textCharges whole)
    fun code => (LineMemory.length_textCharges_le code).trans (by omega)
  rw [ofSource, ofLines, completes_bind added, completes_bind alsoAdded,
    ← completes_ramFindings_iff typed written sourceId]
  refine completes_bind_always fun ramNotes _ => ?_
  exact (completes_registerFindings typed sourceId _).bind fun _ =>
    (completes_textFindings typed alsoWritten sourceId).bind fun _ => completes_pure _

end MemoryEstimate

end PinBudget
