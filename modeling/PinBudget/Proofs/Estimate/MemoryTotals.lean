import Mathlib.Algebra.GroupWithZero.Nat
import Mathlib.Algebra.Order.BigOperators.Group.List
import Mathlib.Algebra.Order.Group.Nat
import Mathlib.Data.List.Perm.Subperm
import PinBudget.Estimate.Memory
import PinBudget.Proofs.Outcome
import PinBudget.Proofs.Text.Lines

/-!
The memory estimate as a sum over lines. Where every cost is a natural number, a line takes a number
of bytes that its code alone determines. The estimate adds these up, so it does not depend on the
order of the lines, and no line lowers it.
-/
namespace PinBudget

open Source

variable {costs : Section MemoryKey} {amounts : MemoryKey → Nat}

/-- Whether a memory setting is the cost of something; the others are limits. -/
def MemoryKey.isCost : MemoryKey → Bool
  | .textLimit | .ramWarningRatio | .ramErrorRatio => false
  | .integer | .floating | .textOverhead | .arrayBase | .arrayItem | .hashBase | .hashItem | .object
  | .other | .arrayLine | .hashLine => true

/-- Every cost is a natural number. -/
def Priced (costs : Section MemoryKey) (amounts : MemoryKey → Nat) : Prop :=
  ∀ key, key.isCost → costs key = .nat (amounts key)

namespace ValueShape

/-- The bytes that a value of the shape takes. -/
def bytes (amounts : MemoryKey → Nat) : ValueShape → Nat
  | integer => amounts .integer
  | floating => amounts .floating
  | quoted length => length + amounts .textOverhead
  | array commas => amounts .arrayBase + commas * amounts .arrayItem
  | hash commas => amounts .hashBase + commas * amounts .hashItem
  | object => amounts .object
  | other => amounts .other

theorem textCost_eq (priced : Priced costs amounts) (length : Nat) :
    textCost costs length = .ok (.int (length + amounts .textOverhead : Nat)) := by
  rw [textCost, priced .textOverhead rfl]
  rfl

theorem cost_eq (priced : Priced costs amounts) (shape : ValueShape) :
    shape.cost costs = .ok (.nat (shape.bytes amounts)) := by
  cases shape with
  | integer => exact congrArg _ (priced .integer rfl)
  | floating => exact congrArg _ (priced .floating rfl)
  | quoted length => rw [cost, textCost_eq priced]; rfl
  | array commas => rw [cost, priced .arrayBase rfl, priced .arrayItem rfl]; rfl
  | hash commas => rw [cost, priced .hashBase rfl, priced .hashItem rfl]; rfl
  | object => exact congrArg _ (priced .object rfl)
  | other => exact congrArg _ (priced .other rfl)

end ValueShape

namespace MemoryEstimate

/-- Charges that are natural numbers with a sum. -/
def ComeTo (charges : List (Except Fault Number)) (sum : Nat) : Prop :=
  ∃ parts : List Nat, charges = parts.map (fun part : Nat => .ok (.int part)) ∧ parts.sum = sum

namespace ComeTo

variable {charges further : List (Except Fault Number)} {sum more : Nat}

theorem nil : ComeTo [] 0 :=
  ⟨[], rfl, rfl⟩

theorem singleton (amount : Nat) : ComeTo [.ok (.int amount)] amount :=
  ⟨[amount], rfl, rfl⟩

theorem append (first : ComeTo charges sum) (second : ComeTo further more) :
    ComeTo (charges ++ further) (sum + more) := by
  obtain ⟨parts, rfl, rfl⟩ := first
  obtain ⟨others, rfl, rfl⟩ := second
  exact ⟨parts ++ others, List.map_append.symm, List.sum_append⟩

theorem map {α : Type} {charge : α → Except Fault Number} {amount : α → Nat}
    (each : ∀ item, charge item = .ok (.int (amount item))) (items : List α) :
    ComeTo (items.map charge) (items.map amount).sum :=
  ⟨items.map amount, by simp [each], rfl⟩

theorem flatMap {α : Type} {charges : α → List (Except Fault Number)} {amount : α → Nat}
    (each : ∀ item, ComeTo (charges item) (amount item)) (items : List α) :
    ComeTo (items.flatMap charges) (items.map amount).sum := by
  induction items with
  | nil => exact nil
  | cons item rest ih => exact (each item).append ih

theorem total_eq (due : ComeTo charges sum) : total charges = .ok (.int sum) := by
  obtain ⟨parts, rfl, rfl⟩ := due
  suffices adds : ∀ start : Nat,
      (parts.map fun part : Nat => Except.ok (Number.int part)).foldlM
        (fun sum charge => do Number.add sum (← charge)) (Number.int start) =
        (.ok (.int (start + parts.sum : Nat)) : Except Fault Number) by
    simpa [total] using adds 0
  intro start
  induction parts generalizing start with
  | nil => rfl
  | cons part rest ih =>
    rw [List.map_cons, List.foldlM_cons, List.sum_cons, ← Nat.add_assoc]
    exact ih (start + part)

end ComeTo

end MemoryEstimate

theorem Source.codeLinesFrom_append (number : Nat) (front back : List (List Char)) :
    codeLinesFrom number (front ++ back) =
      codeLinesFrom number front ++ codeLinesFrom (number + front.length) back := by
  induction front generalizing number with
  | nil => rfl
  | cons line rest ih =>
    have next : number + 1 + rest.length = number + (line :: rest).length := by
      rw [List.length_cons]
      omega
    rw [List.cons_append, codeLinesFrom, codeLinesFrom, ih, next]
    cases (cleanLine line).isEmpty <;> rfl

namespace LineMemory

/-- The bytes of the quoted texts of a line. -/
def textBytes (amounts : MemoryKey → Nat) (shown : LineMemory) : Nat :=
  (shown.texts.map fun content => content.length + amounts .textOverhead).sum

/-- The bytes that a line takes. -/
def bytes (amounts : MemoryKey → Nat) (shown : LineMemory) : Nat :=
  (shown.assigned.toList.map fun right => (ValueShape.ofText right).bytes amounts).sum +
    shown.textBytes amounts + (if shown.hasArray then amounts .arrayLine else 0) +
    (if shown.hasHash then amounts .hashLine else 0) + shown.objects.length * amounts .object

theorem comeTo_textCharges (priced : Priced costs amounts) (shown : LineMemory) :
    MemoryEstimate.ComeTo (shown.textCharges costs) (shown.textBytes amounts) :=
  .map (fun content : List Char => ValueShape.textCost_eq priced content.length) shown.texts

theorem comeTo_charges (priced : Priced costs amounts) (shown : LineMemory) :
    MemoryEstimate.ComeTo (shown.charges costs) (shown.bytes amounts) := by
  have assigned : MemoryEstimate.ComeTo (shown.assignmentCharges costs)
      (shown.assigned.toList.map fun right => (ValueShape.ofText right).bytes amounts).sum := by
    refine .map (fun right => ?_) shown.assigned.toList
    rw [valueCost, ValueShape.cost_eq priced]
    rfl
  have objects : MemoryEstimate.ComeTo
      (shown.objects.map fun _ => Config.number (costs .object))
      (shown.objects.length * amounts .object) := by
    have size : shown.objects.length * amounts .object =
        (shown.objects.map fun _ => amounts .object).sum := by simp
    rw [size]
    refine .map (fun _ => ?_) shown.objects
    rw [priced .object rfl]
    rfl
  refine (((assigned.append (comeTo_textCharges priced shown)).append ?_).append ?_).append objects
  · rw [priced .arrayLine rfl]
    cases shown.hasArray
    · exact .nil
    · exact .singleton _
  · rw [priced .hashLine rfl]
    cases shown.hasHash
    · exact .nil
    · exact .singleton _

def renumber (place : Nat → Nat) (shown : LineMemory) : LineMemory :=
  { shown with line := place shown.line }

@[simp] theorem bytes_renumber (place : Nat → Nat) (shown : LineMemory) :
    (shown.renumber place).bytes amounts = shown.bytes amounts :=
  rfl

@[simp] theorem textBytes_renumber (place : Nat → Nat) (shown : LineMemory) :
    (shown.renumber place).textBytes amounts = shown.textBytes amounts :=
  rfl

/-- What a physical line shows, if it has code, wherever it stands. -/
def ofLine? (line : List Char) : Option LineMemory :=
  let code := cleanLine line
  if code.isEmpty then none else some (ofCode ⟨0, code⟩)

theorem map_ofCode_codeLinesFrom (number places : Nat) (lines : List (List Char)) :
    (codeLinesFrom (number + places) lines).map ofCode =
      ((codeLinesFrom number lines).map ofCode).map (renumber (· + places)) := by
  induction lines generalizing number with
  | nil => rfl
  | cons line rest ih =>
    rw [codeLinesFrom, codeLinesFrom, Nat.add_right_comm]
    cases (cleanLine line).isEmpty with
    | true => exact ih (number + 1)
    | false => exact congrArg _ (ih (number + 1))

/-- But for their places, the lines of a text are what each physical line shows. -/
theorem map_renumber_codeLinesFrom (number : Nat) (lines : List (List Char)) :
    ((codeLinesFrom number lines).map ofCode).map (renumber fun _ => 0) =
      lines.filterMap ofLine? := by
  induction lines generalizing number with
  | nil => rfl
  | cons line rest ih =>
    rw [codeLinesFrom, List.filterMap_cons, ofLine?]
    cases (cleanLine line).isEmpty with
    | true => exact ih (number + 1)
    | false => exact congrArg _ (ih (number + 1))

end LineMemory

namespace MemoryEstimate

variable {config : Config} {sourceId : String} {lines others : List LineMemory}
variable {estimate : MemoryEstimate}

/-- The estimate adds up what the lines show. -/
structure AddsUp (costs : Section MemoryKey) (lines : List LineMemory) (estimate : MemoryEstimate) :
    Prop where
  ramBytes : total (lines.flatMap (LineMemory.charges costs)) = .ok estimate.ramBytes
  textBytes : total (lines.flatMap (LineMemory.textCharges costs)) = .ok estimate.textBytes
  variableCount : estimate.variableCount = lines.countP fun shown => shown.assigned.isSome
  texts : estimate.texts = lines.flatMap fun shown =>
    shown.texts.map fun content => (shown.line, String.ofList content)
  arrayLines : estimate.arrayLines = (lines.filter LineMemory.hasArray).map LineMemory.line
  hashLines : estimate.hashLines = (lines.filter LineMemory.hasHash).map LineMemory.line
  objects : estimate.objects = lines.flatMap fun shown =>
    shown.objects.map fun name => (shown.line, String.ofList name)

theorem addsUp_of_ofLines (estimated : ofLines config sourceId lines = .ok estimate) :
    estimate.AddsUp config.memory lines := by
  obtain ⟨ram, charged, estimated⟩ := bind_eq_ok.mp estimated
  obtain ⟨texts, chargedTexts, estimated⟩ := bind_eq_ok.mp estimated
  obtain ⟨ramNotes, _, estimated⟩ := bind_eq_ok.mp estimated
  obtain ⟨registerNotes, _, estimated⟩ := bind_eq_ok.mp estimated
  obtain ⟨textNotes, _, estimated⟩ := bind_eq_ok.mp estimated
  cases estimated
  exact ⟨charged, chargedTexts, rfl, rfl, rfl, rfl, rfl⟩

/-- What the lines of an estimate take, where the costs are natural numbers. -/
theorem AddsUp.bytes (added : estimate.AddsUp costs lines) (priced : Priced costs amounts) :
    estimate.ramBytes = .int (lines.map (LineMemory.bytes amounts)).sum ∧
      estimate.textBytes = .int (lines.map (LineMemory.textBytes amounts)).sum := by
  have ram := (ComeTo.flatMap (LineMemory.comeTo_charges priced) lines).total_eq
  have texts := (ComeTo.flatMap (LineMemory.comeTo_textCharges priced) lines).total_eq
  rw [added.ramBytes] at ram
  rw [added.textBytes] at texts
  exact ⟨Except.ok.inj ram, Except.ok.inj texts⟩

theorem sum_bytes (amounts : MemoryKey → Nat) (lines : List LineMemory) :
    (lines.map (LineMemory.bytes amounts)).sum =
      ((lines.filterMap LineMemory.assigned).map fun right =>
          (ValueShape.ofText right).bytes amounts).sum +
        (lines.map (LineMemory.textBytes amounts)).sum +
        amounts .arrayLine * lines.countP LineMemory.hasArray +
        amounts .hashLine * lines.countP LineMemory.hasHash +
        amounts .object * (lines.flatMap LineMemory.objects).length := by
  induction lines with
  | nil => rfl
  | cons shown rest ih =>
    rw [List.map_cons, List.sum_cons, ih, LineMemory.bytes]
    have arrays : amounts .arrayLine * (shown :: rest).countP LineMemory.hasArray =
        (if shown.hasArray then amounts .arrayLine else 0) +
          amounts .arrayLine * rest.countP LineMemory.hasArray := by
      cases own : shown.hasArray <;> simp [own, Nat.mul_add, Nat.add_comm]
    have hashes : amounts .hashLine * (shown :: rest).countP LineMemory.hasHash =
        (if shown.hasHash then amounts .hashLine else 0) +
          amounts .hashLine * rest.countP LineMemory.hasHash := by
      cases own : shown.hasHash <;> simp [own, Nat.mul_add, Nat.add_comm]
    have values : (((shown :: rest).filterMap LineMemory.assigned).map fun right =>
        (ValueShape.ofText right).bytes amounts).sum =
        (shown.assigned.toList.map fun right => (ValueShape.ofText right).bytes amounts).sum +
          ((rest.filterMap LineMemory.assigned).map fun right =>
            (ValueShape.ofText right).bytes amounts).sum := by
      cases own : shown.assigned <;> simp [own]
    have objects : amounts .object * ((shown :: rest).flatMap LineMemory.objects).length =
        shown.objects.length * amounts .object +
          amounts .object * (rest.flatMap LineMemory.objects).length := by
      rw [List.flatMap_cons, List.length_append, Nat.mul_add, Nat.mul_comm]
    rw [arrays, hashes, values, objects, List.map_cons, List.sum_cons]
    omega

/-- The bytes of the quoted texts that an estimate lists: their lengths, each with the overhead. -/
def listedBytes (amounts : MemoryKey → Nat) (texts : List (Nat × String)) : Nat :=
  (texts.map fun text => text.2.length + amounts .textOverhead).sum

theorem listedBytes_flatMap (amounts : MemoryKey → Nat) (lines : List LineMemory) :
    listedBytes amounts (lines.flatMap fun shown =>
        shown.texts.map fun content => (shown.line, String.ofList content)) =
      (lines.map (LineMemory.textBytes amounts)).sum := by
  induction lines with
  | nil => rfl
  | cons shown rest ih =>
    rw [listedBytes] at ih ⊢
    rw [List.flatMap_cons, List.map_append, List.sum_append, ih, List.map_cons, List.sum_cons,
      List.map_map]
    simp [LineMemory.textBytes, Function.comp_def]

theorem AddsUp.breakdown (added : estimate.AddsUp costs lines) (priced : Priced costs amounts) :
    ∃ values : List Nat,
      (lines.filterMap LineMemory.assigned).map (valueCost costs) =
          values.map (fun value : Nat => .ok (.nat value)) ∧
        estimate.variableCount = values.length ∧
        estimate.textBytes = .int (listedBytes amounts estimate.texts) ∧
        estimate.ramBytes = .int (values.sum + listedBytes amounts estimate.texts +
          amounts .arrayLine * estimate.arrayLines.length +
          amounts .hashLine * estimate.hashLines.length +
          amounts .object * estimate.objects.length : Nat) := by
  obtain ⟨ram, texts⟩ := added.bytes priced
  have listed : listedBytes amounts estimate.texts =
      (lines.map (LineMemory.textBytes amounts)).sum := by
    rw [added.texts, listedBytes_flatMap]
  refine ⟨(lines.filterMap LineMemory.assigned).map fun right =>
    (ValueShape.ofText right).bytes amounts, ?_, ?_, ?_, ?_⟩
  · rw [List.map_map]
    exact List.map_congr_left fun right _ => ValueShape.cost_eq priced _
  · rw [added.variableCount, List.length_map, List.length_filterMap_eq_countP]
  · rw [texts, listed]
  · have arrays : estimate.arrayLines.length = lines.countP LineMemory.hasArray := by
      rw [added.arrayLines, List.length_map, List.countP_eq_length_filter]
    have hashes : estimate.hashLines.length = lines.countP LineMemory.hasHash := by
      rw [added.hashLines, List.length_map, List.countP_eq_length_filter]
    have objects : estimate.objects.length = (lines.flatMap LineMemory.objects).length := by
      rw [added.objects]
      simp only [List.length_flatMap, List.length_map]
    rw [ram, listed, arrays, hashes, objects, ← sum_bytes]

theorem AddsUp.append {front back whole : MemoryEstimate} (place : Nat → Nat)
    (addedFront : front.AddsUp costs lines) (addedBack : back.AddsUp costs others)
    (added : whole.AddsUp costs (lines ++ others.map (LineMemory.renumber place)))
    (priced : Priced costs amounts) :
    front.ramBytes.add back.ramBytes = .ok whole.ramBytes ∧
      front.textBytes.add back.textBytes = .ok whole.textBytes ∧
      whole.variableCount = front.variableCount + back.variableCount ∧
      whole.texts = front.texts ++ back.texts.map (Prod.map place id) ∧
      whole.arrayLines = front.arrayLines ++ back.arrayLines.map place ∧
      whole.hashLines = front.hashLines ++ back.hashLines.map place ∧
      whole.objects = front.objects ++ back.objects.map (Prod.map place id) := by
  obtain ⟨ramFront, textsFront⟩ := addedFront.bytes priced
  obtain ⟨ramBack, textsBack⟩ := addedBack.bytes priced
  obtain ⟨ram, texts⟩ := added.bytes priced
  refine ⟨?_, ?_, ?_, ?_, ?_, ?_, ?_⟩
  · rw [ramFront, ramBack, ram]
    simp [Number.add, Function.comp_def]
  · rw [textsFront, textsBack, texts]
    simp [Number.add, Function.comp_def]
  · rw [added.variableCount, addedFront.variableCount, addedBack.variableCount, List.countP_append,
      List.countP_map]
    rfl
  · rw [added.texts, addedFront.texts, addedBack.texts, List.flatMap_append, List.flatMap_map,
      List.map_flatMap]
    simp [LineMemory.renumber, Function.comp_def]
  · rw [added.arrayLines, addedFront.arrayLines, addedBack.arrayLines]
    simp [LineMemory.renumber, List.filter_map, Function.comp_def]
  · rw [added.hashLines, addedFront.hashLines, addedBack.hashLines]
    simp [LineMemory.renumber, List.filter_map, Function.comp_def]
  · rw [added.objects, addedFront.objects, addedBack.objects, List.flatMap_append, List.flatMap_map,
      List.map_flatMap]
    simp [LineMemory.renumber, Function.comp_def]

section Source

variable {text other : String}

theorem linesOf_append {front : String}
    (ended : front.toList = [] ∨ front.toList.getLast? = some '\n') (back : String) :
    linesOf (front ++ back) = linesOf front ++
      (linesOf back).map (LineMemory.renumber (· + (Text.lines front.toList).length)) := by
  rw [linesOf, codeLines, String.toList_append, Text.lines_append ended,
    codeLinesFrom_append, List.map_append, LineMemory.map_ofCode_codeLinesFrom]
  rfl

theorem map_linesOf {α : Type} {amount : LineMemory → α}
    (placeless : ∀ shown, amount (shown.renumber fun _ => 0) = amount shown) (text : String) :
    (linesOf text).map amount =
      ((Text.lines text.toList).filterMap LineMemory.ofLine?).map amount := by
  rw [← LineMemory.map_renumber_codeLinesFrom 1, List.map_map, linesOf, codeLines]
  exact List.map_congr_left fun shown _ => (placeless shown).symm

theorem map_linesOf_subperm {α : Type} {amount : LineMemory → α}
    (placeless : ∀ shown, amount (shown.renumber fun _ => 0) = amount shown)
    (among : (Text.lines text.toList).Subperm (Text.lines other.toList)) :
    ((linesOf text).map amount).Subperm ((linesOf other).map amount) := by
  rw [map_linesOf placeless, map_linesOf placeless]
  obtain ⟨lines, reordered, part⟩ := among
  exact ⟨_, (reordered.filterMap _).map _, (part.filterMap _).map _⟩

/-- What the lines of a text take comes to no less if there are more lines. -/
theorem sum_linesOf_le {amount : LineMemory → Nat}
    (placeless : ∀ shown, amount (shown.renumber fun _ => 0) = amount shown)
    (among : (Text.lines text.toList).Subperm (Text.lines other.toList)) :
    ((linesOf text).map amount).sum ≤ ((linesOf other).map amount).sum := by
  obtain ⟨lines, reordered, part⟩ := map_linesOf_subperm placeless among
  rw [← reordered.sum_nat]
  exact part.sum_le_sum fun _ _ => Nat.zero_le _

theorem countP_linesOf_le (among : (Text.lines text.toList).Subperm (Text.lines other.toList)) :
    (linesOf text).countP (fun shown => shown.assigned.isSome) ≤
      (linesOf other).countP fun shown => shown.assigned.isSome := by
  have assigned : ((linesOf text).map LineMemory.assigned).Subperm
      ((linesOf other).map LineMemory.assigned) := map_linesOf_subperm (fun _ => rfl) among
  have counted := assigned.countP_le Option.isSome
  rwa [List.countP_map, List.countP_map] at counted

/-- The totals of an estimate and its findings. -/
def totals (estimate : MemoryEstimate) : Number × Nat × Number × List Finding :=
  (estimate.ramBytes, estimate.variableCount, estimate.textBytes, estimate.findings)

/-- Whether there is an estimate, its totals and its findings are the same where the lines take as
much. -/
theorem totals_ofLines_eq
    (ram : total (lines.flatMap (LineMemory.charges config.memory)) =
      total (others.flatMap (LineMemory.charges config.memory)))
    (texts : total (lines.flatMap (LineMemory.textCharges config.memory)) =
      total (others.flatMap (LineMemory.textCharges config.memory)))
    (counts : lines.countP (fun shown => shown.assigned.isSome) =
      others.countP fun shown => shown.assigned.isSome) :
    totals <$> ofLines config sourceId lines = totals <$> ofLines config sourceId others := by
  rw [ofLines, ofLines, ram, texts, counts]
  simp only [map_bind, map_pure, totals]

/-- Texts with the same lines in another order have estimates with the same totals, or none. -/
theorem totals_ofSource_of_perm (priced : Priced config.memory amounts)
    (reordered : (Text.lines text.toList).Perm (Text.lines other.toList)) :
    totals <$> ofSource config text sourceId = totals <$> ofSource config other sourceId := by
  have sums {amount : LineMemory → Nat}
      (placeless : ∀ shown, amount (shown.renumber fun _ => 0) = amount shown) :
      ((linesOf text).map amount).sum = ((linesOf other).map amount).sum :=
    Nat.le_antisymm (sum_linesOf_le placeless reordered.subperm)
      (sum_linesOf_le placeless reordered.symm.subperm)
  refine totals_ofLines_eq ?_ ?_ ?_
  · rw [(ComeTo.flatMap (LineMemory.comeTo_charges priced) (linesOf text)).total_eq,
      (ComeTo.flatMap (LineMemory.comeTo_charges priced) (linesOf other)).total_eq]
    rw [sums (LineMemory.bytes_renumber _)]
  · rw [(ComeTo.flatMap (LineMemory.comeTo_textCharges priced) (linesOf text)).total_eq,
      (ComeTo.flatMap (LineMemory.comeTo_textCharges priced) (linesOf other)).total_eq]
    rw [sums (LineMemory.textBytes_renumber _)]
  · exact Nat.le_antisymm (countP_linesOf_le reordered.subperm)
      (countP_linesOf_le reordered.symm.subperm)

/-- Where the lines of a text are among those of another, its estimate is no higher. -/
theorem totals_le_of_subperm {larger : MemoryEstimate} (priced : Priced config.memory amounts)
    (among : (Text.lines text.toList).Subperm (Text.lines other.toList))
    (estimated : ofSource config text sourceId = .ok estimate)
    (estimatedLarger : ofSource config other sourceId = .ok larger) :
    larger.ramBytes.less estimate.ramBytes = false ∧
      larger.textBytes.less estimate.textBytes = false ∧
      estimate.variableCount ≤ larger.variableCount := by
  have added := addsUp_of_ofLines estimated
  have addedLarger := addsUp_of_ofLines estimatedLarger
  obtain ⟨ram, texts⟩ := added.bytes priced
  obtain ⟨ramLarger, textsLarger⟩ := addedLarger.bytes priced
  refine ⟨?_, ?_, ?_⟩
  · rw [ram, ramLarger, Number.less, decide_eq_false_iff_not, Int.not_lt, Int.ofNat_le]
    exact sum_linesOf_le (LineMemory.bytes_renumber _) among
  · rw [texts, textsLarger, Number.less, decide_eq_false_iff_not, Int.not_lt, Int.ofNat_le]
    exact sum_linesOf_le (LineMemory.textBytes_renumber _) among
  · rw [added.variableCount, addedLarger.variableCount]
    exact countP_linesOf_le among

end Source

/-- Where every cost is a natural number, the estimate is a sum over lines. Its bytes are what the
right sides of the assignments, the quoted texts, the lines with arrays and hashes and the
constructed objects come to. The estimates of a text that ends its last line and of what follows add
up to the estimate of both, with the later lines counted on. More lines never lower the totals, and
with the lines in another order the totals and the findings stay the same. -/
theorem estimate_sums_lines (config : Config) (amounts : MemoryKey → Nat)
    (priced : Priced config.memory amounts) (sourceId : String) :
    (∀ text estimate, ofSource config text sourceId = .ok estimate →
      ∃ values : List Nat,
        ((linesOf text).filterMap LineMemory.assigned).map (valueCost config.memory) =
            values.map (fun value : Nat => .ok (.nat value)) ∧
          estimate.variableCount = values.length ∧
          estimate.textBytes = .int (listedBytes amounts estimate.texts) ∧
          estimate.ramBytes = .int (values.sum + listedBytes amounts estimate.texts +
            amounts .arrayLine * estimate.arrayLines.length +
            amounts .hashLine * estimate.hashLines.length +
            amounts .object * estimate.objects.length : Nat)) ∧
      (∀ (first second : String) front back whole,
        first.toList = [] ∨ first.toList.getLast? = some '\n' →
          ofSource config first sourceId = .ok front →
            ofSource config second sourceId = .ok back →
              ofSource config (first ++ second) sourceId = .ok whole →
                let later := (· + (Text.lines first.toList).length)
                front.ramBytes.add back.ramBytes = .ok whole.ramBytes ∧
                  front.textBytes.add back.textBytes = .ok whole.textBytes ∧
                  whole.variableCount = front.variableCount + back.variableCount ∧
                  whole.texts = front.texts ++ back.texts.map (Prod.map later id) ∧
                  whole.arrayLines = front.arrayLines ++ back.arrayLines.map later ∧
                  whole.hashLines = front.hashLines ++ back.hashLines.map later ∧
                  whole.objects = front.objects ++ back.objects.map (Prod.map later id)) ∧
      (∀ text other, (Text.lines text.toList).Subperm (Text.lines other.toList) →
        ∀ estimate larger, ofSource config text sourceId = .ok estimate →
          ofSource config other sourceId = .ok larger →
            larger.ramBytes.less estimate.ramBytes = false ∧
              larger.textBytes.less estimate.textBytes = false ∧
              estimate.variableCount ≤ larger.variableCount) ∧
      ∀ text other, (Text.lines text.toList).Perm (Text.lines other.toList) →
        totals <$> ofSource config text sourceId = totals <$> ofSource config other sourceId := by
  refine ⟨?_, ?_, ?_, ?_⟩
  · intro text estimate estimated
    exact (addsUp_of_ofLines estimated).breakdown priced
  · intro first second front back whole ended estimatedFront estimatedBack estimated later
    have added := addsUp_of_ofLines estimated
    rw [linesOf_append ended] at added
    exact (addsUp_of_ofLines estimatedFront).append later (addsUp_of_ofLines estimatedBack) added
      priced
  · intro text other among estimate larger estimated estimatedLarger
    exact totals_le_of_subperm priced among estimated estimatedLarger
  · intro text other reordered
    exact totals_ofSource_of_perm priced reordered

theorem estimate_sums_lines_of_natural_costs :
    let amounts : MemoryKey → Nat
      | .object => 48
      | .textOverhead => 24
      | .textLimit => 4096
      | .ramWarningRatio | .ramErrorRatio => 1
      | _ => 16
    let config : Config := { Config.standard with memory := fun key => .nat (amounts key) }
    let first := "led = GPIO.new(\"B7\") # on\n\n"
    let second := "puts 'x'\nlist = [1, 2]"
    let swapped := "list = [1, 2]\nputs 'x'\n\nled = GPIO.new(\"B7\") # on"
    Priced config.memory amounts ∧
      (∃ front back whole, ofSource config first "a.rb" = .ok front ∧
        ofSource config second "a.rb" = .ok back ∧
        ofSource config (first ++ second) "a.rb" = .ok whole ∧
        whole.ramBytes.same (.int 195) = true ∧
        front.ramBytes.add back.ramBytes = .ok whole.ramBytes ∧
        whole.texts = front.texts ++ back.texts.map (Prod.map (· + 2) id) ∧
        whole.arrayLines = front.arrayLines ++ back.arrayLines.map (· + 2) ∧
        whole.objects = front.objects ++ back.objects.map (Prod.map (· + 2) id)) ∧
      totals <$> ofSource config (first ++ second) "a.rb" =
        totals <$> ofSource config swapped "a.rb" := by
  intro amounts config first second swapped
  have priced : Priced config.memory amounts := fun _ _ => rfl
  have known (text : String) (bytes : Int)
      (found : (ofSource config text "a.rb").toOption.any (·.ramBytes.same (.int bytes)) = true) :=
    exists_ok_of_any found
  obtain ⟨front, estimatedFront, _⟩ := known first 122 (by decide +kernel)
  obtain ⟨back, estimatedBack, _⟩ := known second 73 (by decide +kernel)
  obtain ⟨whole, estimated, bytes⟩ := known (first ++ second) 195 (by decide +kernel)
  obtain ⟨_, additive, _, unordered⟩ := estimate_sums_lines config amounts priced "a.rb"
  obtain ⟨ram, _, _, texts, arrays, _, objects⟩ := additive first second front back whole
    (by decide +kernel) estimatedFront estimatedBack estimated
  have places : (Text.lines first.toList).length = 2 := by decide +kernel
  rw [places] at texts arrays objects
  exact ⟨priced, ⟨front, back, whole, estimatedFront, estimatedBack, estimated, bytes, ram, texts,
    arrays, objects⟩, unordered _ swapped (by decide +kernel)⟩

end MemoryEstimate

end PinBudget
