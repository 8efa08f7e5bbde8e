import PinBudget.Estimate.Resources
import PinBudget.Proofs.Analysis.ConstructionCounts
import PinBudget.Proofs.Estimate.Completion
import PinBudget.Proofs.Estimate.MemoryCompletion

/-!
When the estimate of a source completes. Overrides that are accepted and have the types of the
defaults can still leave a source without one; what they have to respect, and what the events of the
source have to, is stated as one condition. The standard settings respect theirs.
-/
namespace PinBudget

open Source

variable {config : Config} {extraction : Extraction} {text sourceId : String}

theorem length_endsFrom_le (name : List Char) (before : Option Char) (offset : Nat)
    (code : List Char) : (endsFrom name before offset code).length ≤ code.length := by
  induction code generalizing before offset with
  | nil => exact Nat.le_refl _
  | cons c rest ih =>
    have later := ih (some c) (offset + 1)
    rw [endsFrom]
    split <;> simp only [List.length_cons] <;> omega

/-- A text has no more constructions than characters, but for one. -/
theorem instanceCount_le (extracted : extract text sourceId = .ok extraction) (kind : Kind) :
    extraction.instanceCount kind ≤ text.length + 1 := by
  have own (statement : Statement) :
      (constructorEnds kind statement.text).countP (Extraction.closes statement) ≤
        statement.text.length + 1 :=
    calc
      _ ≤ (constructorEnds kind statement.text).length := List.countP_le_length
      _ ≤ (mask statement.text).length := length_endsFrom_le _ _ _ _
      _ ≤ statement.text.length + 1 := (length_mask _).trans_le (Nat.le_succ _)
  calc
    extraction.instanceCount kind = _ := instanceCount_of_extract extracted kind
    _ ≤ extent ((statements text.toList).map Statement.text) := by
      rw [extent, List.map_map]
      exact List.sum_le_sum fun statement _ => own statement
    _ ≤ text.length + 1 := by
      rw [← String.length_toList]
      exact extent_statements _

/-- The unit and the interrupt priority of an event can be read, and the priority can be written. -/
structure Event.Numbered (event : Event) : Prop where
  unit : Completes event.unit
  priority : ∃ priority, event.interruptPriority = .ok priority ∧ Firmware.Legible priority

theorem PeripheralSetup.completes_ofEvent_iff {event : Event} :
    Completes (ofEvent event) ∧ (∀ setup, ofEvent event = .ok setup →
      Firmware.Legible setup.interruptPriority) ↔ event.Numbered := by
  constructor
  · rintro ⟨⟨setup, done⟩, legible⟩
    have shown := legible setup done
    obtain ⟨unit, own, more⟩ := bind_eq_ok.mp done
    obtain ⟨priority, also, same⟩ := bind_eq_ok.mp more
    cases same
    exact ⟨⟨unit, own⟩, priority, also, shown⟩
  · rintro ⟨⟨unit, own⟩, priority, also, legible⟩
    rw [ofEvent, own, also]
    exact ⟨completes_pure _, fun _ done => by cases done; exact legible⟩

namespace ResourceEstimate

/-- What the settings, the events of a source and its bytecode need for an estimate. -/
@[mk_iff]
structure Estimable (config : Config) (extraction : Extraction) (bytecode : Option (List UInt8)) :
    Prop where
  ram : Config.Reachable config.ramErrorBytes
  kinds : ∀ kind, PerformanceEstimate.Assessable (config.peripherals kind)
    (extraction.instanceCount kind) (extraction.usageCount kind)
  events : ∀ event ∈ extraction.events, event.Numbered
  console : Firmware.HasConsole config
  flash : ∀ data size, bytecode = some data → Bytecode.readSize config.mark data = .ok size →
    BytecodeCheck.HasFlash config

variable {held : List HeldPin} {responseLimit : Option Number} {bytecode : Option (List UInt8)}

theorem completes_compatibility_iff (typed : config.Typed) :
    Completes (extraction.events.mapM PeripheralSetup.ofEvent >>= fun setups =>
      Firmware.check config held setups sourceId) ↔
    (∀ event ∈ extraction.events, event.Numbered) ∧ Firmware.HasConsole config := by
  rw [completes_bind_iff]
  constructor
  · rintro ⟨setups, done, checked⟩
    obtain ⟨legible, console⟩ := (Firmware.completes_check_iff typed).mp checked
    refine ⟨fun event member => PeripheralSetup.completes_ofEvent_iff.mp ⟨?_, ?_⟩, console⟩
    · exact completes_mapM_iff.mp ⟨setups, done⟩ event member
    · exact (forall_mem_of_mapM_iff done).mp legible event member
  · rintro ⟨numbered, console⟩
    have each := fun event member =>
      PeripheralSetup.completes_ofEvent_iff.mpr (numbered event member)
    obtain ⟨setups, done⟩ := completes_mapM_iff.mpr fun event member => (each event member).1
    have legible := (forall_mem_of_mapM_iff done).mpr fun event member => (each event member).2
    exact ⟨setups, done, (Firmware.completes_check_iff typed).mpr ⟨legible, console⟩⟩

/-- Bytecode is checked only if there is some, and then flash memory is needed behind its header. -/
theorem completes_check_iff (typed : config.Typed) (sourceId : String) :
    Completes (match bytecode with
      | some data => (BytecodeCheck.ofBytes config data sourceId).map some
      | none => pure none) ↔
    ∀ data size, bytecode = some data → Bytecode.readSize config.mark data = .ok size →
      BytecodeCheck.HasFlash config := by
  cases bytecode with
  | none =>
    refine iff_of_true (completes_pure _) ?_
    rintro _ _ ⟨⟩
  | some data =>
    rw [completes_map_iff, BytecodeCheck.completes_ofBytes_iff typed]
    exact ⟨fun each _ size same => Option.some.inj same ▸ each size,
      fun each size => each data size rfl⟩

/-- Under typed settings an estimate completes exactly if it is estimable. -/
theorem completes_ofSource_iff (typed : config.Typed) (short : text.length < 2 ^ 63)
    (timers : TimingEstimate.ShortTimers text) {name : String}
    (extracted : extract text name = .ok extraction)
    (limited : ∀ limit, responseLimit = some limit → limit.Fits) :
    Completes (ofSource config text sourceId extraction held responseLimit bytecode) ↔
      Estimable config extraction bytecode := by
  have countable (kind : Kind) : (Number.int (extraction.instanceCount kind)).Fits :=
    Number.fits_natural ((instanceCount_le extracted kind).trans_lt (by omega))
  obtain ⟨timing, timed⟩ : Completes
      (TimingEstimate.ofSource config text sourceId extraction.methodCalls responseLimit) :=
    TimingEstimate.completes_ofSource typed timers limited _
  rw [estimable_iff, ← and_assoc (a := ∀ event ∈ extraction.events, event.Numbered),
    ← MemoryEstimate.completes_ofSource_iff typed short sourceId,
    ← PerformanceEstimate.completes_ofExtraction_iff typed countable,
    ← completes_compatibility_iff typed, ← completes_check_iff typed sourceId]
  unfold ofSource
  refine completes_bind_of fun memory _ => ?_
  rw [completes_bind timed]
  refine completes_bind_of fun performance _ => ?_
  rw [← bind_assoc]
  refine completes_bind_of fun compatibility _ => ?_
  cases bytecode with
  | none => exact iff_of_true (completes_pure _) (completes_pure _)
  | some data => exact completes_bind_always fun _ _ => completes_pure _

/-- Under the standard settings nothing but the events decides whether an estimate completes. -/
theorem estimable_standard_iff :
    Estimable Config.standard extraction bytecode ↔
      ∀ event ∈ extraction.events, event.Numbered := by
  refine ⟨Estimable.events, fun numbered => ⟨?_, fun kind => ?_, numbered, ?_, ?_⟩⟩
  · exact Config.reachable_of_finite (by decide +kernel)
  · exact PerformanceEstimate.assessable_standard kind _ _
  · intro pin member
    have listed : Json.str pin ∈ (Json.strs ["B4", "A4"]).items := member
    obtain rfl | rfl : pin = "B4" ∨ pin = "A4" := by simpa [Json.strs, Json.items] using listed
    · with_unfolding_all exact ⟨_, rfl⟩
    · with_unfolding_all exact ⟨_, rfl⟩
  · rintro _ _ _ _
    refine ⟨?_, Config.reachable_of_finite (by decide +kernel)⟩
    rintro ⟨⟩

/-- Accepted overrides of the types of the defaults: an estimate completes exactly if whole numbers
can lie below the limits on memory, costs stay within the doubles, messages that are due can be
filled in, the console's pins exist, there is flash memory for bytecode with a header, and the units
and priorities of the events can be read. A message covers the count, all its parts, and of other
values the parts in `Template.Referent.part`; one with further parts is not filled in here. -/
theorem exists_estimate_iff {base : Config} {overrides : Json} (typed : base.Typed)
    (formed : overrides.IsOverride) (fitting : overrides.Fitting)
    (accepted : base.override overrides = .ok config) (short : text.length < 2 ^ 63)
    (timers : TimingEstimate.ShortTimers text) {name : String}
    (extracted : extract text name = .ok extraction)
    (limited : ∀ limit, responseLimit = some limit → limit.Fits) :
    (∃ estimate, ofSource config text sourceId extraction held responseLimit bytecode =
      .ok estimate) ↔ Estimable config extraction bytecode :=
  completes_ofSource_iff (typed.override formed fitting accepted) short timers extracted limited

variable {hardware costs : List (String × Json)}

/-- Overrides of the hardware and of the costs of the converter. -/
def converterOverrides (hardware costs : List (String × Json)) : Json :=
  .obj [("hardware", .obj hardware), ("peripherals", .obj [("adc", .obj costs)])]

/-- The fields of the hardware and of the costs have the types of the defaults. -/
structure FitConverter (hardware costs : List (String × Json)) : Prop where
  board : (Json.obj hardware).IsDict
  converter : (Json.obj costs).IsDict
  hardware : ∀ (key : HardwareKey) value, (Json.obj hardware).field? (SettingKey.label key) =
    some value → (Setting.hardware key).type.Admits value
  costs : ∀ (key : CostKey) value, (Json.obj costs).field? (SettingKey.label key) =
    some value → (Setting.cost .adc key).type.Admits value

theorem mention_converterOverrides (kind : Kind) (key : CostKey) :
    (converterOverrides hardware costs).mention (.cost kind key) =
      if kind = .adc then (Json.obj costs).field? (SettingKey.label key) else none := by
  have known : (Kind.parse "adc").toOption = some .adc := by decide
  change (Json.costs [("adc", .obj costs)] kind key).getLast? = _
  rw [Json.costs, List.filterMap_cons]
  dsimp only
  rw [known]
  by_cases own : kind = .adc
  · subst own
    rw [if_pos rfl, if_pos rfl]
    cases (Json.obj costs).field? (SettingKey.label key) <;> rfl
  · rw [if_neg own, if_neg fun same => own (Option.some.inj same).symm]
    rfl

theorem FitConverter.isOverride (fit : FitConverter hardware costs) :
    (converterOverrides hardware costs).IsOverride where
  dict := ⟨_, rfl, by
    have distinct : ["hardware", "peripherals"].Nodup := by decide
    exact distinct⟩
  hardware := ⟨fit.board, fun key sequence value given => by
    have own := fit.hardware key value given
    cases key with
    | criticalLevels =>
      obtain ⟨levels, rfl, _⟩ := own
      exact ⟨_, rfl⟩
    | consolePins =>
      obtain ⟨pins, rfl⟩ := own
      exact ⟨_, rfl⟩
    | _ => cases sequence⟩
  memory := ⟨⟨[], rfl, List.nodup_nil⟩, fun _ _ _ => nofun⟩
  timing := ⟨⟨[], rfl, List.nodup_nil⟩, fun _ _ _ => nofun⟩
  peripherals := ⟨_, rfl, List.nodup_singleton _⟩
  costs := List.forall_mem_singleton.mpr fit.converter
  mark := nofun

theorem FitConverter.fitting (fit : FitConverter hardware costs) :
    (converterOverrides hardware costs).Fitting := by
  intro setting value mentioned
  cases setting with
  | hardware key => exact fit.hardware key value mentioned
  | memory key => cases mentioned
  | timing key => cases mentioned
  | cost kind key =>
    rw [mention_converterOverrides] at mentioned
    split at mentioned
    · rename_i own
      subst own
      exact fit.costs key value mentioned
    · cases mentioned
  | limit key => cases key <;> cases mentioned

/-- A console on one pin, and a message of its own for the converter. -/
def newMessage : Json :=
  converterOverrides [("console_pins", .strs ["a4"])]
    [("bottleneck_above", .nat 1), ("bottleneck_message", .str "\x7bcount:>3\x7d converters")]

theorem fitConverter_newMessage : FitConverter [("console_pins", .strs ["a4"])]
    [("bottleneck_above", .nat 1), ("bottleneck_message", .str "\x7bcount:>3\x7d converters")] := by
  refine ⟨⟨_, rfl, by decide⟩, ⟨_, rfl, by decide⟩, fun key _ given => ?_, fun key _ given => ?_⟩
  · cases key <;> cases given
    exact ⟨["a4"], rfl⟩
  · cases key <;> cases given
    · exact .inr ⟨_, rfl, Number.fits_int (by decide)⟩
    · exact ⟨_, rfl⟩

theorem estimable_newMessage_iff :
    Estimable (Config.overlay newMessage Config.standard) extraction bytecode ↔
      ∀ event ∈ extraction.events, event.Numbered := by
  refine ⟨Estimable.events, fun numbered => ⟨?_, fun kind => ?_, numbered, ?_, ?_⟩⟩
  · exact Config.reachable_of_finite (by decide +kernel)
  · cases kind with
    | adc =>
      refine ⟨?_, ?_, ?_, ?_, ?_⟩
      · rintro _ ⟨⟩
      · rintro _ ⟨⟩
      · rintro _ ⟨⟩
      · rintro _ _ ⟨⟩ _ ⟨⟩
        with_unfolding_all exact ⟨_, rfl⟩
      · exact (PerformanceEstimate.assessable_standard .adc 0 _).optimization
    | pwm => exact PerformanceEstimate.assessable_standard .pwm _ _
    | gpio => exact PerformanceEstimate.assessable_standard .gpio _ _
    | i2c => exact PerformanceEstimate.assessable_standard .i2c _ _
    | spi => exact PerformanceEstimate.assessable_standard .spi _ _
    | uart => exact PerformanceEstimate.assessable_standard .uart _ _
  · intro pin member
    have listed : Json.str pin ∈ (Json.strs ["a4"]).items := member
    obtain rfl : pin = "a4" := by simpa [Json.strs, Json.items] using listed
    with_unfolding_all exact ⟨_, rfl⟩
  · rintro _ _ _ _
    refine ⟨?_, Config.reachable_of_finite (by decide +kernel)⟩
    rintro ⟨⟩

theorem exists_estimate_iff_of_new_message :
    let text := "one = ADC.new(28)\ntwo = ADC.new(26)\nsleep 2 # Timer1\n"
    let header : List UInt8 := [82, 73, 84, 69, 48, 51, 48, 48, 12, 0, 0, 0]
    ∃ config extraction estimate, Config.ofJson newMessage = .ok config ∧
      extract text "a.rb" = .ok extraction ∧ extraction.usageCount .adc = 2 ∧
      ofSource config text "a.rb" extraction [] none (some header) = .ok estimate := by
  intro text header
  have fit := fitConverter_newMessage
  obtain ⟨config, accepted⟩ : Completes (Config.ofJson newMessage) := by decide +kernel
  have scanned : (extract text "a.rb").toOption.any (fun extraction =>
      extraction.usageCount .adc == 2 && extraction.events.all fun event =>
        decide (Completes event.unit) && event.interruptPriority.toOption.any Option.isNone) =
      true := by
    decide +kernel
  obtain ⟨extraction, extracted, shown⟩ := exists_ok_of_any scanned
  rw [Bool.and_eq_true, beq_iff_eq, List.all_eq_true] at shown
  have numbered : ∀ event ∈ extraction.events, event.Numbered := by
    intro event member
    obtain ⟨unit, priority⟩ := Bool.and_eq_true_iff.mp (shown.2 event member)
    obtain ⟨_, own, none_⟩ := exists_ok_of_any priority
    cases Option.isNone_iff_eq_none.mp none_
    exact ⟨of_decide_eq_true unit, none, own, nofun⟩
  have estimable : Estimable config extraction (some header) := by
    cases (Config.settled_override fit.isOverride _).eq_of_ok accepted
    exact estimable_newMessage_iff.mpr numbered
  have short : text.length < 2 ^ 63 := by decide +kernel
  have timers : TimingEstimate.ShortTimers text := by
    unfold TimingEstimate.ShortTimers
    decide +kernel
  have limited : ∀ limit, (none : Option Number) = some limit → limit.Fits := nofun
  obtain ⟨estimate, done⟩ : ∃ estimate, ofSource config text "a.rb" extraction [] none
      (some header) = .ok estimate :=
    (exists_estimate_iff Config.typed_standard fit.isOverride fit.fitting accepted short timers
      extracted limited).mpr estimable
  exact ⟨config, extraction, estimate, accepted, extracted, shown.1, done⟩

/-- The overrides are accepted and have the types of the defaults, but leave a source without an
estimate. -/
def Spoils (overrides : Json) (text : String) (bytecode : Option (List UInt8)) : Prop :=
  overrides.IsOverride ∧ overrides.Fitting ∧ ∃ config extraction,
    Config.ofJson overrides = .ok config ∧ extract text "a.rb" = .ok extraction ∧
      TimingEstimate.ShortTimers text ∧
      ¬∃ estimate, ofSource config text "a.rb" extraction [] none bytecode = .ok estimate

theorem spoils_of (fit : FitConverter hardware costs)
    (accepted : Completes (Config.ofJson (converterOverrides hardware costs)))
    (extracted : extract text "a.rb" = .ok extraction) (short : text.length < 2 ^ 63)
    (timers : TimingEstimate.ShortTimers text)
    (broken : ¬Estimable (Config.overlay (converterOverrides hardware costs) Config.standard)
      extraction bytecode) : Spoils (converterOverrides hardware costs) text bytecode := by
  obtain ⟨config, accepted⟩ := accepted
  have typed := Config.typed_standard.override fit.isOverride fit.fitting accepted
  cases (Config.settled_override fit.isOverride _).eq_of_ok accepted
  refine ⟨fit.isOverride, fit.fitting, _, extraction, accepted, extracted, timers,
    fun estimated => broken ?_⟩
  have limited : ∀ limit, (none : Option Number) = some limit → limit.Fits := nofun
  exact (completes_ofSource_iff typed short timers extracted limited).mp estimated

/-- No flash memory divides by zero, a pin beyond the board cannot be read, and a message with a
lone brace is no template. -/
theorem accepted_overrides_spoil_estimates :
    Spoils (converterOverrides [("flash_size", .nat 0)] []) ""
      (some [82, 73, 84, 69, 48, 51, 48, 48, 12, 0, 0, 0]) ∧
    Spoils (converterOverrides [("console_pins", .strs ["Z9"])] []) "" none ∧
    Spoils (converterOverrides [] [("bottleneck_above", .nat 0), ("bottleneck_message", .str "\x7b")])
      "adc = ADC.new(28)" none := by
  have nothing : (Json.obj ([] : List (String × Json))).IsDict := ⟨[], rfl, List.nodup_nil⟩
  have noTimers : TimingEstimate.ShortTimers "" := by
    unfold TimingEstimate.ShortTimers
    decide +kernel
  obtain ⟨empty, emptied⟩ : Completes (extract "" "a.rb") := by decide +kernel
  refine ⟨?_, ?_, ?_⟩
  · have fit : FitConverter [("flash_size", .nat 0)] [] := by
      refine ⟨⟨_, rfl, List.nodup_singleton _⟩, nothing, fun key _ given => ?_, fun _ _ => nofun⟩
      cases key <;> cases given
      exact ⟨0, rfl, Number.fits_int (by decide)⟩
    refine spoils_of fit (by decide +kernel) emptied (by decide) noTimers fun estimable => ?_
    exact (estimable.flash _ 12 rfl (by decide +kernel)).1 rfl
  · have fit : FitConverter [("console_pins", .strs ["Z9"])] [] := by
      refine ⟨⟨_, rfl, List.nodup_singleton _⟩, nothing, fun key _ given => ?_, fun _ _ => nofun⟩
      cases key <;> cases given
      exact ⟨["Z9"], rfl⟩
    refine spoils_of fit (by decide +kernel) emptied (by decide) noTimers fun estimable => ?_
    have unreadable : ¬Completes (Pin.ofText "Z9") := by decide +kernel
    exact unreadable (estimable.console "Z9" (List.mem_singleton_self _))
  · have fit : FitConverter []
        [("bottleneck_above", .nat 0), ("bottleneck_message", .str "\x7b")] := by
      refine ⟨nothing, ⟨_, rfl, by decide⟩, fun _ _ => nofun, fun key _ given => ?_⟩
      cases key <;> cases given
      · exact .inr ⟨_, rfl, Number.fits_int (by decide)⟩
      · exact ⟨_, rfl⟩
    have timers : TimingEstimate.ShortTimers "adc = ADC.new(28)" := by
      unfold TimingEstimate.ShortTimers
      decide +kernel
    have scanned : (extract "adc = ADC.new(28)" "a.rb").toOption.any (fun extraction =>
        extraction.usageCount .adc == 1) = true := by
      decide +kernel
    obtain ⟨extraction, extracted, counted⟩ := exists_ok_of_any scanned
    refine spoils_of fit (by decide +kernel) extracted (by decide) timers fun estimable => ?_
    have used : extraction.usageCount .adc = 1 := beq_iff_eq.mp counted
    have unfilled : ¬Completes (Template.fill 1 "\x7b") := by decide +kernel
    have due := (estimable.kinds .adc).bottleneck (.int 0) "\x7b" rfl
    rw [used] at due
    exact unfilled (due rfl rfl)

end ResourceEstimate

end PinBudget
