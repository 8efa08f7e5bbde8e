import PinBudget.Estimate.Bytecode
import PinBudget.Estimate.Firmware
import PinBudget.Estimate.Performance
import PinBudget.Estimate.Timing
import PinBudget.Proofs.Config.Typed
import PinBudget.Proofs.Source.Extent

/-!
When the parts of an estimate complete, memory apart. Under settings of the types of their defaults
the running time always can be worked out. For the rest there is one condition for each use that a
setting of its type can still spoil: a cost that grows beyond the doubles, a message that is no
template, a priority too long to be written, a console pin that does not exist, a flash memory
without room.
-/
namespace PinBudget

open Source

variable {config : Config} {extraction : Extraction} {text sourceId : String}

namespace TimingEstimate

/-- The numbers of the timers that a text mentions have no more digits than can be read. -/
def ShortTimers (text : String) : Prop :=
  ∀ code ∈ codeLines text.toList, ∀ digits ∈ matchesOf LineTiming.timer (mask code.text),
    digits.length ≤ Fault.digitLimit

theorem completes_timersOf {shown : LineTiming}
    (short : ∀ digits ∈ shown.timers, digits.length ≤ Fault.digitLimit) :
    Completes (timersOf config shown) := by
  refine completes_mapM_iff.mpr fun digits member => ?_
  have read : Numeral.ofDigits digits = .ok (Text.decimalNumber digits) :=
    if_neg (short digits member).not_gt
  rw [completes_bind read]
  exact completes_pure _

theorem completes_charges (typed : config.Typed) (shown : LineTiming) (time : Float) :
    Completes (addCharges time (shown.charges config.timing)) := by
  have setting {key : TimingKey} (number : SettingType.number.Admits (config.timing key)) :
      ∃ cost : Number, Config.number (config.timing key) = .ok cost ∧ cost.Fits := by
    obtain ⟨cost, same, fits⟩ := number
    exact ⟨cost, by rw [same, Config.number_number], fits⟩
  have charged : ∀ charge ∈ shown.charges config.timing,
      ∃ cost : Number, charge = .ok cost ∧ cost.Fits := by
    intro charge member
    simp only [LineTiming.charges, List.mem_append] at member
    rcases member with (delay | operation) | loop
    · obtain ⟨delay, _, rfl⟩ := List.mem_map.mp delay
      exact ⟨_, rfl, Number.fits_float _⟩
    · obtain ⟨_, _, rfl⟩ := List.mem_map.mp operation
      exact setting (typed (.timing .blockingCall))
    · split at loop
      · cases List.mem_singleton.mp loop
        exact setting (typed (.timing .loopOverhead))
      · cases loop
  refine exists_ok_of_foldlM (fun charge member sum => ?_) time
  obtain ⟨cost, rfl, x, converted⟩ := charged charge member
  exact ⟨sum + x, by simp [bind, Except.bind, pure, Except.pure, converted]⟩

theorem completes_addLine (typed : config.Typed) {shown : LineTiming}
    (short : ∀ digits ∈ shown.timers, digits.length ≤ Fault.digitLimit)
    (reached : Float × List TimerUse) : Completes (addLine config reached shown) := by
  have timers : Completes (timersOf config shown) := completes_timersOf short
  exact timers.bind fun _ => (completes_charges typed shown reached.1).bind fun _ => completes_pure _

variable {responseLimit : Option Number}

theorem completes_delayFindings (typed : config.Typed)
    (limited : ∀ limit, responseLimit = some limit → limit.Fits) (delay : DelayCall) :
    Completes (delayFindings config sourceId responseLimit delay) := by
  have general {number : Number} (fits : number.Fits) : Completes number.general :=
    completes_map_iff.mpr fits
  have shown := general (Number.fits_float delay.milliseconds)
  unfold delayFindings
  cases responseLimit with
  | none =>
    have limit : SettingType.number.Admits (config.timing .longDelay) := typed (.timing .longDelay)
    refine (Config.completes_above limit _).bind fun _ => ?_
    exact completes_ite (shown.bind fun _ => completes_pure _) (completes_pure _)
  | some limit =>
    have allowed := general (limited limit rfl)
    exact completes_ite (shown.bind fun _ => allowed.bind fun _ => completes_pure _)
      (completes_pure _)

theorem completes_executionFindings (typed : config.Typed) (execution : Float) :
    Completes (executionFindings config sourceId execution) := by
  have limit : SettingType.number.Admits (config.timing .executionLimit) :=
    typed (.timing .executionLimit)
  exact (Config.completes_above limit _).bind fun _ =>
    completes_ite (completes_pure _) (completes_pure _)

theorem completes_ofSource (typed : config.Typed) (short : ShortTimers text)
    (limited : ∀ limit, responseLimit = some limit → limit.Fits) (calls : List MethodCall) :
    Completes (ofSource config text sourceId calls responseLimit) := by
  unfold ofSource ofLines
  dsimp only
  generalize called : LineTiming.attributed (config.timing .blockingMethods).items calls = shown
  have lines : ∀ line ∈ (codeLines text.toList).map (LineTiming.ofCode shown), ∀ reached,
      Completes (addLine config reached line) := by
    intro line member reached
    obtain ⟨code, listed, rfl⟩ := List.mem_map.mp member
    exact completes_addLine typed (short code listed) reached
  refine Completes.bind (exists_ok_of_foldlM lines (0.0, [])) fun ⟨execution, timers⟩ => ?_
  refine Completes.bind (completes_mapM_iff.mpr fun delay _ => ?_) fun delayNotes => ?_
  · exact completes_delayFindings typed limited delay
  · exact (completes_executionFindings typed execution).bind fun _ => completes_pure _

end TimingEstimate

namespace PerformanceEstimate

/-- So many times a cost lie within the doubles. A floating cost may be any. -/
def Affordable (count : Nat) (cost : Json) : Prop :=
  ∀ n : Int, cost = .int n → (Number.int (count * n)).Fits

/-- A message that is due can be filled in. -/
def Fillable (used : Nat) (threshold message : Json) : Prop :=
  ∀ (limit : Number) (template : String), threshold = .number limit →
    limit.less (.int used) = true → message = .str template →
      Completes (Template.fill used template)

/-- So many constructions can be charged by the settings of a kind, and so much usage be advised
on. -/
@[mk_iff]
structure Assessable (cost : Section CostKey) (count used : Nat) : Prop where
  cpu : Affordable count (cost .cpu)
  power : Affordable count (cost .power)
  response : Affordable count (cost .response)
  bottleneck : Fillable used (cost .bottleneckAbove) (cost .bottleneckMessage)
  optimization : Fillable used (cost .optimizationAbove) (cost .optimizationMessage)

theorem completes_charge_iff {cost : Json} {count : Nat} (typed : SettingType.number.Admits cost)
    (countable : (Number.int count).Fits) (sum : Float) :
    Completes (charge sum count cost) ↔ Affordable count cost := by
  obtain ⟨number, rfl, fits⟩ := typed
  cases number with
  | int n =>
    have charged : charge sum count (.number (.int n)) =
        (Number.int (count * n)).toFloat.map (sum + ·) := rfl
    rw [charged, completes_map_iff]
    constructor
    · rintro within m ⟨⟩
      exact within
    · exact fun within => within n rfl
  | float x =>
    obtain ⟨y, converted⟩ := countable
    have priced : Config.times count (.number (.float x)) = .ok (.float (y * x)) := by
      simp only [Config.times, Config.number_number, Number.mul, converted]
      rfl
    rw [charge, priced]
    refine iff_of_true (completes_ok _) ?_
    rintro _ ⟨⟩

theorem completes_advice_iff {threshold message : Json} {used : Nat}
    (limited : SettingType.threshold.Admits threshold) (text : SettingType.text.Admits message) :
    Completes (advice used threshold message) ↔ Fillable used threshold message := by
  obtain ⟨template, rfl⟩ := text
  rcases limited with rfl | ⟨limit, rfl, _⟩
  · exact iff_of_true (completes_pure _) nofun
  · have compared : Config.above (.int used) (.number limit) = .ok (limit.less (.int used)) := rfl
    rw [advice.eq_def]
    dsimp only
    rw [completes_bind compared]
    by_cases due : limit.less (.int used) = true
    · rw [if_pos due, completes_bind_always fun _ _ => completes_pure _]
      constructor
      · rintro filled _ _ ⟨⟩ _ ⟨⟩
        exact filled
      · exact fun fillable => fillable limit template rfl due rfl
    · rw [if_neg due]
      refine iff_of_true (completes_pure _) ?_
      rintro _ _ ⟨⟩ crossed
      exact absurd crossed due

theorem completes_addKind_iff (typed : config.Typed) {kind : Kind}
    (countable : (Number.int (extraction.instanceCount kind)).Fits) (totals : Totals) :
    Completes (addKind config extraction totals kind) ↔ Assessable (config.peripherals kind)
      (extraction.instanceCount kind) (extraction.usageCount kind) := by
  have own (key : CostKey) : (Setting.cost kind key).type.Admits (config.peripherals kind key) :=
    typed (.cost kind key)
  rw [assessable_iff, ← completes_charge_iff (own .cpu) countable totals.cpu,
    ← completes_charge_iff (own .power) countable totals.power,
    ← completes_charge_iff (own .response) countable totals.response,
    ← completes_advice_iff (own .bottleneckAbove) (own .bottleneckMessage),
    ← completes_advice_iff (own .optimizationAbove) (own .optimizationMessage)]
  refine completes_bind_of fun _ _ => completes_bind_of fun _ _ => completes_bind_of fun _ _ =>
    completes_bind_of fun _ _ => completes_bind_always fun _ _ => completes_pure _

theorem completes_ofExtraction_iff (typed : config.Typed)
    (countable : ∀ kind, (Number.int (extraction.instanceCount kind)).Fits) :
    Completes (ofExtraction config extraction) ↔ ∀ kind, Assessable (config.peripherals kind)
      (extraction.instanceCount kind) (extraction.usageCount kind) := by
  have rated (load : Number) : Completes (Rating.ofLoad config load) := by
    have excellent : SettingType.number.Admits (config.limits .excellentBelow) :=
      typed (.limit .excellentBelow)
    have good : SettingType.number.Admits (config.limits .goodBelow) := typed (.limit .goodBelow)
    refine (Config.completes_below excellent load).bind fun _ => ?_
    refine completes_ite (completes_pure _) ((Config.completes_below good load).bind fun _ => ?_)
    exact completes_ite (completes_pure _) (completes_pure _)
  rw [ofExtraction, completes_bind_always fun _ _ => (rated _).bind fun _ => completes_pure _,
    completes_foldlM_iff fun kind _ totals => completes_addKind_iff typed (countable kind) totals]
  exact ⟨fun each kind => each kind (by cases kind <;> decide), fun each kind _ => each kind⟩

theorem assessable_standard (kind : Kind) (count used : Nat) :
    Assessable (Config.standard.peripherals kind) count used := by
  refine ⟨?_, ?_, ?_, ?_, ?_⟩
  · cases kind <;> rintro _ ⟨⟩
  · cases kind <;> rintro _ ⟨⟩
  · cases kind <;> rintro _ ⟨⟩
  · cases kind <;> rintro _ _ ⟨⟩ _ ⟨⟩ <;> with_unfolding_all exact ⟨_, rfl⟩
  · cases kind <;> rintro _ _ ⟨⟩ _ ⟨⟩ <;> with_unfolding_all exact ⟨_, rfl⟩

end PerformanceEstimate

theorem Numeral.completes_shown_iff {n : Int} :
    Completes (shown n) ↔ n.natAbs < bound := by
  unfold shown
  split
  · exact iff_of_true (completes_ok _) ‹_›
  · exact iff_of_false (not_completes_error _) ‹_›

namespace Firmware

variable {held : List HeldPin} {setups : List PeripheralSetup}

theorem completes_freeTimers (typed : config.Typed) : Completes (freeTimers config) := by
  obtain ⟨n, own, _⟩ : SettingType.whole.Admits (config.hardware .timerCount) :=
    typed (.hardware .timerCount)
  have counted : timerCount config = .ok n.toNat := by rw [timerCount, own]; rfl
  rw [freeTimers, completes_bind counted]
  exact completes_pure _

theorem exists_greatest (levels : List Int) :
    ∃ n : Int, greatest (levels.map .int) = .int n ∧ (n = 0 ∨ n ∈ levels) := by
  cases levels with
  | nil => exact ⟨0, rfl, .inl rfl⟩
  | cons first rest =>
    suffices step : ∀ (rest : List Int) (best : Int), ∃ n : Int,
        (rest.map Number.int).foldl (fun best number => if best.less number then number else best)
          (Number.int best) = .int n ∧ n ∈ best :: rest by
      obtain ⟨n, same, member⟩ := step rest first
      exact ⟨n, same, .inr member⟩
    intro rest
    induction rest with
    | nil => exact fun best => ⟨best, rfl, List.mem_singleton_self best⟩
    | cons level others ih =>
      intro best
      rw [List.map_cons, List.foldl_cons]
      split
      · obtain ⟨n, same, member⟩ := ih level
        exact ⟨n, same, List.mem_cons_of_mem _ member⟩
      · obtain ⟨n, same, member⟩ := ih best
        refine ⟨n, same, ?_⟩
        rcases List.mem_cons.mp member with rfl | later
        · exact List.mem_cons_self ..
        · exact List.mem_cons_of_mem _ (List.mem_cons_of_mem _ later)

/-- The critical levels are whole numbers, and so is the first one above them, which can be
written. -/
theorem exists_firstFree (typed : config.Typed) :
    ∃ (critical : List Number) (first : Int), criticalLevels config = .ok critical ∧
      (greatest critical).add (.int 1) = .ok (.int first) ∧ first.natAbs < Numeral.bound := by
  obtain ⟨levels, own, fitting⟩ : SettingType.wholes.Admits (config.hardware .criticalLevels) :=
    typed (.hardware .criticalLevels)
  obtain ⟨n, most, member⟩ := exists_greatest levels
  have read : criticalLevels config = .ok (levels.map .int) := by
    rw [criticalLevels, own, Json.items, List.mapM_map]
    exact mapM_eq_map fun level _ => rfl
  refine ⟨_, n + 1, read, by rw [most]; rfl, ?_⟩
  have small : n.natAbs < Number.reach := by
    rcases member with rfl | member
    · exact Number.reach_pos
    · exact (fitting n member).lt
  have room : Number.reach < Numeral.bound := by decide +kernel
  omega

theorem completes_timerFindings (typed : config.Typed) (free : String) (setup : PeripheralSetup) :
    Completes (timerFindings config free sourceId setup) := by
  have timer : SettingType.whole.Admits (config.hardware .reservedTimer) :=
    typed (.hardware .reservedTimer)
  exact completes_ite ((Config.completes_display timer).bind fun _ => completes_pure _)
    (completes_pure _)

/-- A priority can be checked if it can be written; the firmware's levels are short enough. -/
theorem completes_priorityFindings_iff (typed : config.Typed) {critical : List Number} {first : Int}
    (written : first.natAbs < Numeral.bound) (line : Option Int) (priority : Int) :
    Completes (priorityFindings config critical (.int first) sourceId line priority) ↔
      priority.natAbs < Numeral.bound := by
  have levels : SettingType.whole.Admits (config.hardware .interruptLevels) :=
    typed (.hardware .interruptLevels)
  have displayed := Config.completes_display levels
  have firstShown : Completes (Number.int first).shown := Number.exists_shown_int written
  obtain ⟨last, own, fits⟩ := levels
  have checked : isLevel config priority = .ok (decide (1 ≤ priority ∧ priority ≤ last)) := by
    unfold isLevel
    by_cases low : priority < 1
    · rw [if_pos low, decide_eq_false (by omega)]
    · have bounded : (Number.int priority).atMost (.int last) =
          decide (1 ≤ priority ∧ priority ≤ last) := by
        rw [Number.atMost, Number.less, Number.same, Bool.eq_iff_iff]
        simp only [Bool.or_eq_true, decide_eq_true_eq, beq_iff_eq]
        omega
      rw [if_neg low, own, ← bounded]
      rfl
  unfold priorityFindings
  dsimp only
  rw [completes_bind checked]
  by_cases level : 1 ≤ priority ∧ priority ≤ last
  · have within : priority.natAbs ≤ last.natAbs := by omega
    have small := within.trans_lt (fits.lt.trans_le Number.reach_le)
    have priorityShown := Numeral.completes_shown_iff.mpr small
    refine iff_of_true ?_ small
    rw [decide_eq_true level, if_neg (by decide)]
    exact completes_ite (priorityShown.bind fun _ => firstShown.bind fun _ =>
      displayed.bind fun _ => completes_pure _) (completes_pure _)
  · rw [decide_eq_false level, if_pos (by decide), ← Numeral.completes_shown_iff]
    exact completes_bind_always fun _ _ => displayed.bind fun _ => completes_pure _

/-- The priority of a setup, if it has one, can be written. -/
def Legible (priority : Option Int) : Prop :=
  ∀ n, priority = some n → n.natAbs < Numeral.bound

theorem completes_setupFindings_iff (typed : config.Typed) {critical : List Number} {first : Int}
    (written : first.natAbs < Numeral.bound) (free : String) (setup : PeripheralSetup) :
    Completes (setupFindings config free critical (.int first) sourceId setup) ↔
      Legible setup.interruptPriority := by
  unfold setupFindings
  dsimp only
  obtain ⟨timer, noted⟩ := completes_timerFindings typed free setup
  rw [completes_bind noted]
  cases setup.interruptPriority with
  | none => exact iff_of_true (completes_pure _) nofun
  | some priority =>
    dsimp only
    rw [completes_bind_always fun _ _ => completes_pure _,
      completes_priorityFindings_iff typed written]
    exact ⟨fun small n same => Option.some.inj same ▸ small, fun legible => legible priority rfl⟩

/-- The pins of the console exist. -/
def HasConsole (config : Config) : Prop :=
  ∀ pin : String, .str pin ∈ (config.hardware .consolePins).items → Completes (Pin.ofText pin)

/-- The check against the firmware completes if priorities can be written and the console's pins
exist. -/
theorem completes_check_iff (typed : config.Typed) :
    Completes (check config held setups sourceId) ↔
      (∀ setup ∈ setups, Legible setup.interruptPriority) ∧ HasConsole config := by
  obtain ⟨free, listed⟩ := completes_freeTimers typed
  obtain ⟨critical, first, read, added, written⟩ := exists_firstFree typed
  obtain ⟨pins, own⟩ : SettingType.texts.Admits (config.hardware .consolePins) :=
    typed (.hardware .consolePins)
  have console : HasConsole config ↔ ∀ pin ∈ pins, Completes (Pin.ofText pin) := by
    simp [HasConsole, own, Json.strs, Json.items]
  rw [check, completes_bind listed, completes_bind read, completes_bind added, console,
    ← forall₂_congr fun setup _ => completes_setupFindings_iff typed written free setup,
    ← completes_mapM_iff]
  refine completes_bind_of fun notes _ => ?_
  rw [completes_bind_always fun _ _ => completes_pure _, own, Json.strs, Json.items,
    completes_mapM_iff, List.forall_mem_map]
  rfl

end Firmware

namespace BytecodeCheck

/-- The stated size can be compared with the flash memory: there is some, and whole numbers can lie
below the limit. -/
def HasFlash (config : Config) : Prop :=
  config.hardware .flashSize ≠ .int 0 ∧ Config.Reachable config.flashErrorBytes

theorem completes_sizeFindings_iff (typed : config.Typed) (size : Nat) :
    Completes (sizeFindings config sourceId size) ↔ Config.Reachable config.flashErrorBytes := by
  obtain ⟨limit, limited, brief⟩ := typed.exists_flashErrorBytes
  obtain ⟨warning, warned⟩ := typed.exists_flashWarningBytes
  rw [Config.reachable_iff limited, sizeFindings, completes_bind limited,
    completes_bind (Config.number_number limit)]
  by_cases crossed : limit.less (.int size) = true
  · rw [if_pos crossed]
    exact Number.completes_written_iff brief crossed _
  · have floor : ¬limit.IsBottom := fun bottom => crossed (Number.less_of_isBottom bottom size)
    rw [if_neg crossed, completes_bind warned, completes_bind (Config.number_number warning)]
    refine iff_of_true ?_ floor
    split <;> exact completes_pure _

/-- The check of bytecode completes if the header is malformed or the flash memory has room. -/
theorem completes_ofBytes_iff (typed : config.Typed) (data : List UInt8) :
    Completes (ofBytes config data sourceId) ↔
      ∀ size, Bytecode.readSize config.mark data = .ok size → HasFlash config := by
  obtain ⟨flash, own, fits⟩ : SettingType.whole.Admits (config.hardware .flashSize) :=
    typed (.hardware .flashSize)
  unfold ofBytes
  cases read : Bytecode.readSize config.mark data with
  | error fault => exact iff_of_true (completes_pure _) nofun
  | ok size =>
    have nonzero : config.hardware .flashSize ≠ .int 0 ↔ flash ≠ 0 := by
      simp [own, Json.int]
    have known : Config.number (config.hardware .flashSize) = .ok (.int flash) := by
      rw [own]
      rfl
    dsimp only
    rw [completes_bind known]
    have parts : (∀ other, (.ok size : Except Fault Nat) = .ok other → HasFlash config) ↔
        HasFlash config := ⟨fun each => each size rfl, fun flash _ _ => flash⟩
    rw [parts, HasFlash, nonzero, ← Number.exists_quotient_iff fits (100.0 * Float.ofNat size),
      ← completes_sizeFindings_iff typed size]
    refine completes_bind_of fun percent _ => ?_
    exact completes_bind_always fun _ _ => completes_pure _

end BytecodeCheck

end PinBudget
