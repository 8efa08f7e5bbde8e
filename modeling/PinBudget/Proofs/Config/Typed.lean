import PinBudget.Config.Setting
import PinBudget.Proofs.Allocation.Legible
import PinBudget.Proofs.Config.Mention
import PinBudget.Proofs.Number.Double

/-!
Settings of the types of their defaults. Overrides of these types lead from the standard
configuration only to configurations of these types, and what a setting of its type is used for as a
quantity meets no fault.
-/
namespace PinBudget

/-- The types of settings. A threshold may be left out. -/
inductive SettingType where
  | text
  | whole
  | number
  | threshold
  | texts
  | wholes

/-- The values of a type. Whole numbers have to lie within the doubles; floating ones may be any. -/
def SettingType.Admits : SettingType → Json → Prop
  | text, json => ∃ value : String, json = .str value
  | whole, json => ∃ n : Int, json = .int n ∧ (Number.int n).Fits
  | number, json => ∃ value : Number, json = .number value ∧ value.Fits
  | threshold, json => json = .null ∨ ∃ value : Number, json = .number value ∧ value.Fits
  | texts, json => ∃ values : List String, json = .strs values
  | wholes, json => ∃ values : List Int, json = .arr (values.map .int) ∧
      ∀ n ∈ values, (Number.int n).Fits

/-- The type of the default of a setting. -/
def Setting.type : Setting → SettingType
  | .hardware .name => .text
  | .hardware .criticalLevels => .wholes
  | .hardware .consolePins => .texts
  | .hardware _ => .whole
  | .memory .ramWarningRatio | .memory .ramErrorRatio => .number
  | .memory _ => .whole
  | .timing .blockingMethods => .texts
  | .timing _ => .number
  | .cost _ .cpu | .cost _ .power | .cost _ .response => .number
  | .cost _ .bottleneckAbove | .cost _ .optimizationAbove => .threshold
  | .cost _ .bottleneckMessage | .cost _ .optimizationMessage => .text
  | .limit _ => .number

/-- Whatever a document mentions has the type of its default. -/
def Json.Fitting (document : Json) : Prop :=
  ∀ setting value, document.mention setting = some value → setting.type.Admits value

namespace Config

/-- Every setting has the type of its default. -/
def Typed (config : Config) : Prop :=
  ∀ setting : Setting, setting.type.Admits (config.get setting)

theorem typed_standard : standard.Typed := by
  have whole {n : Int} (short : n.natAbs.log2 < 1023) : SettingType.whole.Admits (.int n) :=
    ⟨n, rfl, Number.fits_int short⟩
  have floating (x : Float) : SettingType.number.Admits (.float x) := ⟨_, rfl, Number.fits_float x⟩
  have levels : SettingType.wholes.Admits (.arr ([1, 2].map .int)) :=
    ⟨[1, 2], rfl, List.forall_mem_cons.mpr
      ⟨Number.fits_int (by decide), List.forall_mem_singleton.mpr (Number.fits_int (by decide))⟩⟩
  intro setting
  cases setting with
  | hardware key =>
    cases key with
    | name => exact ⟨_, rfl⟩
    | criticalLevels => exact levels
    | consolePins => exact ⟨_, rfl⟩
    | _ => exact whole (by decide)
  | memory key =>
    cases key with
    | ramWarningRatio | ramErrorRatio => exact floating _
    | _ => exact whole (by decide)
  | timing key =>
    cases key with
    | blockingMethods => exact ⟨_, rfl⟩
    | _ => exact floating _
  | cost kind key =>
    cases key with
    | cpu | power | response => cases kind <;> exact floating _
    | bottleneckAbove | optimizationAbove =>
      cases kind <;> first | exact .inl rfl | exact .inr ⟨_, rfl, Number.fits_int (by decide)⟩
    | bottleneckMessage | optimizationMessage => cases kind <;> exact ⟨_, rfl⟩
  | limit key => cases key <;> exact floating _

variable {config base reached : Config} {overrides : Json}

/-- Overrides of the types of the defaults keep the types. -/
theorem Typed.override (typed : base.Typed) (formed : overrides.IsOverride)
    (fitting : overrides.Fitting) (accepted : base.override overrides = .ok reached) :
    reached.Typed := by
  cases (settled_override formed base).eq_of_ok accepted
  intro setting
  rw [get_overlay]
  cases mentioned : overrides.mention setting with
  | none => exact typed setting
  | some value => exact fitting setting value mentioned

end Config

theorem Number.reach_mul_reach_le : reach * reach ≤ Numeral.bound := by
  decide +kernel

theorem Number.reach_le : reach ≤ Numeral.bound :=
  (Nat.le_mul_self reach).trans reach_mul_reach_le

namespace Number

theorem exists_shown_int {n : Int} (written : n.natAbs < Numeral.bound) :
    ∃ text, (int n).shown = .ok text :=
  Value.exists_shown_int written

/-- The number lies below all whole numbers. -/
def IsBottom : Number → Prop
  | .int _ => False
  | .float x => magnitude x = .infinite true

/-- The whole part of the number, if it has one, can be written. -/
def Brief (number : Number) : Prop :=
  ∀ n, number.truncate = .ok n → n.natAbs < Numeral.bound

theorem brief_float (x : Float) : (float x).Brief := by
  intro n whole
  unfold truncate at whole
  dsimp only at whole
  split at whole <;> cases whole
  exact (natAbs_truncate_lt ‹_›).trans_le reach_le

theorem less_of_isBottom {limit : Number} (bottom : limit.IsBottom) (n : Int) :
    limit.less (.int n) = true := by
  cases limit with
  | int => cases bottom
  | float x =>
    have same : magnitude x = .infinite true := bottom
    rw [less, compareMixed, same]
    rfl

/-- A limit below a whole number has a whole part, unless it lies below all of them. -/
theorem completes_truncate_iff {limit : Number} {n : Int} (above : limit.less (.int n) = true) :
    Completes limit.truncate ↔ ¬limit.IsBottom := by
  cases limit with
  | int m => exact iff_of_true (completes_ok m) nofun
  | float x =>
    simp only [less, compareMixed, truncate, IsBottom] at above ⊢
    cases same : magnitude x with
    | finite value => simp
    | infinite negative =>
      cases negative with
      | true => simp
      | false =>
        rw [same] at above
        cases above
    | undefined =>
      rw [same] at above
      cases above

/-- A message shows the whole part of a limit that is crossed. -/
theorem completes_written_iff {α : Type} {limit : Number} {n : Int} (brief : limit.Brief)
    (above : limit.less (.int n) = true) (write : String → α) :
    Completes (limit.truncate >>= fun whole => Numeral.shown whole >>= fun text =>
      pure (write text)) ↔ ¬limit.IsBottom := by
  rw [← completes_truncate_iff above]
  refine completes_bind_always fun whole same => ?_
  obtain ⟨text, shown⟩ := Value.exists_shown_int (brief whole same)
  rw [completes_bind shown]
  exact completes_pure _

end Number

namespace Config

variable {setting first second : Json}

@[simp]
theorem number_number (value : Number) : number (.number value) = .ok value :=
  rfl

theorem number_of_whole (whole : SettingType.whole.Admits setting) :
    SettingType.number.Admits setting := by
  obtain ⟨n, rfl, fits⟩ := whole
  exact ⟨_, rfl, fits⟩

theorem completes_above (typed : SettingType.number.Admits setting) (value : Number) :
    Completes (above value setting) := by
  obtain ⟨limit, rfl, _⟩ := typed
  exact completes_ok _

theorem completes_below (typed : SettingType.number.Admits setting) (value : Number) :
    Completes (below value setting) := by
  obtain ⟨limit, rfl, _⟩ := typed
  exact completes_ok _

theorem completes_display (whole : SettingType.whole.Admits setting) :
    Completes (display setting) := by
  obtain ⟨n, rfl, fits⟩ := whole
  have printable : (Value.int n).Printable :=
    List.forall_mem_singleton.mpr (fits.lt.trans_le Number.reach_le)
  exact Value.exists_text printable

/-- The product of two numbers is a number, and a message can show its whole part. -/
theorem exists_product (left : SettingType.number.Admits first)
    (right : SettingType.number.Admits second) :
    ∃ limit : Number, product first second = .ok (.number limit) ∧ limit.Brief := by
  obtain ⟨a, rfl, x, converted⟩ := left
  obtain ⟨b, rfl, y, also⟩ := right
  have floating (mul : a.mul b = .ok (.float (x * y))) :
      ∃ limit : Number, product (.number a) (.number b) = .ok (.number limit) ∧ limit.Brief := by
    refine ⟨.float (x * y), ?_, Number.brief_float _⟩
    simp only [product, number, bind, Except.bind, mul]
    rfl
  cases a with
  | float =>
    cases b <;> exact floating (by simp only [Number.mul, converted, also]; rfl)
  | int m =>
    cases b with
    | float => exact floating (by simp only [Number.mul, converted, also]; rfl)
    | int n =>
      refine ⟨.int (m * n), rfl, ?_⟩
      rintro _ ⟨⟩
      have small := Nat.mul_lt_mul'' (Number.Fits.lt ⟨x, converted⟩) (Number.Fits.lt ⟨y, also⟩)
      rw [Int.natAbs_mul]
      exact small.trans_le Number.reach_mul_reach_le

/-- A limit that whole numbers can lie below. -/
def Reachable (limit : Except Fault Json) : Prop :=
  ∀ number : Number, limit = .ok (.number number) → ¬number.IsBottom

theorem reachable_iff {limit : Except Fault Json} {number : Number}
    (same : limit = .ok (.number number)) : Reachable limit ↔ ¬number.IsBottom := by
  constructor
  · exact fun reachable => reachable number same
  · intro above other equal
    rw [same] at equal
    cases equal
    exact above

theorem reachable_of_finite {limit : Except Fault Json}
    (finite : (limit.toOption.all fun json => match json with
      | .number (.float x) => decide (magnitude x ≠ .infinite true)
      | _ => true) = true) : Reachable limit := by
  rintro number rfl
  cases number with
  | int => exact nofun
  | float x =>
    have above : magnitude x ≠ .infinite true := of_decide_eq_true finite
    exact above

namespace Typed

variable {config : Config} (typed : config.Typed)

include typed

theorem exists_ramErrorBytes :
    ∃ limit : Number, config.ramErrorBytes = .ok (.number limit) ∧ limit.Brief :=
  exists_product (number_of_whole (typed (.hardware .ramSize))) (typed (.memory .ramErrorRatio))

theorem exists_ramWarningBytes :
    ∃ limit : Number, config.ramWarningBytes = .ok (.number limit) :=
  (exists_product (number_of_whole (typed (.hardware .ramSize)))
    (typed (.memory .ramWarningRatio))).imp fun _ => And.left

theorem exists_flashErrorBytes :
    ∃ limit : Number, config.flashErrorBytes = .ok (.number limit) ∧ limit.Brief :=
  exists_product (number_of_whole (typed (.hardware .flashSize))) (typed (.limit .flashErrorRatio))

theorem exists_flashWarningBytes :
    ∃ limit : Number, config.flashWarningBytes = .ok (.number limit) :=
  (exists_product (number_of_whole (typed (.hardware .flashSize)))
    (typed (.limit .flashWarningRatio))).imp fun _ => And.left

end Typed

end Config

end PinBudget
