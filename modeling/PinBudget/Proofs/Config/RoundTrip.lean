import Mathlib.Data.List.TakeDrop
import Mathlib.Data.List.TakeWhile
import PinBudget.Config.Override
import PinBudget.Proofs.Allocation.FirstClaim
import PinBudget.Proofs.Config.Section

/-!
Configurations and their documents. The document of a configuration leads back to it, setting by
setting, but for the mark of bytecode: the document has it as text, and what is not ASCII is lost.
-/
namespace PinBudget

namespace Config

variable {config reached : Config} {overrides : Json}

def IsAscii (mark : List UInt8) : Prop :=
  ∀ byte ∈ mark, byte.toNat < 128

instance (mark : List UInt8) : Decidable (IsAscii mark) :=
  List.decidableBAll _ mark

theorem beyondAscii?_eq_none_iff {text : List Char} :
    beyondAscii? text = none ↔ ∀ c ∈ text, c.toNat < 128 := by
  rw [beyondAscii?, List.span_eq_takeWhile_dropWhile]
  cases rest : text.dropWhile fun c => decide (c.toNat < 128) with
  | nil => simpa [List.dropWhile_eq_nil_iff] using rest
  | cons c more =>
    have beyond : ¬ ∀ c ∈ text, c.toNat < 128 := by
      intro plain
      have none := List.dropWhile_eq_nil_iff.mpr fun c member => decide_eq_true (plain c member)
      rw [none] at rest
      cases rest
    simp [beyond]

theorem toNat_ofNat_of_lt {n : Nat} (small : n < 128) : (Char.ofNat n).toNat = n := by
  have valid : n.isValidChar := .inl (by omega)
  rw [Char.ofNat, dif_pos valid]
  rfl

/-- The text of a mark is ASCII exactly if the mark is: whatever else a byte is, it shows as a
character beyond. -/
theorem markText_isAscii_iff (mark : List UInt8) :
    (∀ c ∈ (markText mark).toList, c.toNat < 128) ↔ IsAscii mark := by
  rw [markText, String.toList_ofList, List.forall_mem_map]
  refine forall₂_congr fun byte _ => ?_
  split
  · rename_i small
    rw [toNat_ofNat_of_lt small]
  · rename_i large
    exact iff_of_false (by decide) large

/-- A mark can be read from its text exactly if it is ASCII, and then it is the mark. -/
theorem ascii_markText_eq_ok_iff {mark read : List UInt8} :
    ascii (markText mark) = .ok read ↔ IsAscii mark ∧ read = mark := by
  rw [ascii, ← markText_isAscii_iff, ← beyondAscii?_eq_none_iff]
  cases beyond : beyondAscii? (markText mark).toList with
  | some stretch => simp
  | none =>
    have plain := (markText_isAscii_iff mark).mp (beyondAscii?_eq_none_iff.mp beyond)
    have same : (markText mark).toList.map (fun c => UInt8.ofNat c.toNat) = mark := by
      rw [markText, String.toList_ofList, List.map_map]
      refine (List.map_congr_left fun byte member => ?_).trans (List.map_id mark)
      simp [plain byte member, toNat_ofNat_of_lt]
    simp [same, eq_comm]

/-- The sequences of the configuration are lists. Only two sections have some. -/
structure Listed (config : Config) : Prop where
  hardware : config.hardware.Listed
  timing : config.timing.Listed

theorem listed_standard : standard.Listed where
  hardware key sequential := by cases key <;> first | exact ⟨_, rfl⟩ | cases sequential
  timing key sequential := by cases key <;> first | exact ⟨_, rfl⟩ | cases sequential

theorem listed_overrideSection {K : Type} [DecidableEq K] [SettingKey K]
    {fields : Dict String Json} {name : String} {settings changed : Section K}
    (listed : settings.Listed) (done : overrideSection fields name settings = .ok changed) :
    changed.Listed := by
  unfold overrideSection at done
  split at done
  · cases done
    exact listed
  · exact listed.override done

theorem of_override (done : config.override overrides = .ok reached) :
    ∃ fields, fieldsOf overrides = .ok fields ∧
      overrideSection fields.named "hardware" config.hardware = .ok reached.hardware ∧
      overrideSection fields.named "memory" config.memory = .ok reached.memory ∧
      overrideSection fields.named "timing" config.timing = .ok reached.timing ∧
      overrideCosts fields.named config.peripherals = .ok reached.peripherals ∧
      overrideMark fields.named config.mark = .ok reached.mark ∧
      overrideLimits fields config.limits = .ok reached.limits := by
  obtain ⟨fields, read, done⟩ := bind_eq_ok.mp done
  obtain ⟨_, hardware, done⟩ := bind_eq_ok.mp done
  obtain ⟨_, memory, done⟩ := bind_eq_ok.mp done
  obtain ⟨_, timing, done⟩ := bind_eq_ok.mp done
  obtain ⟨_, peripherals, done⟩ := bind_eq_ok.mp done
  obtain ⟨_, mark, done⟩ := bind_eq_ok.mp done
  obtain ⟨_, limits, done⟩ := bind_eq_ok.mp done
  cases done
  exact ⟨fields, read, hardware, memory, timing, peripherals, mark, limits⟩

theorem Listed.override (listed : config.Listed) (done : config.override overrides = .ok reached) :
    reached.Listed := by
  obtain ⟨_, _, hardware, _, timing, _⟩ := of_override done
  exact ⟨listed_overrideSection listed.hardware hardware, listed_overrideSection listed.timing timing⟩

theorem overrideCost_document (costs target : Kind → Section CostKey) (kind : Kind) :
    overrideCost costs (kind.name, (target kind).document) =
      .ok fun other => if other = kind then target kind else costs other := by
  have listed : (target kind).Listed := Section.listed_of_plain (fun _ => rfl) _
  rw [overrideCost, Kind.parse_name]
  simp only [Section.override_document listed]
  rfl

theorem foldlM_overrideCost_document (costs target : Kind → Section CostKey) :
    (Kind.all.map fun kind => (kind.name, (target kind).document)).foldlM overrideCost costs =
      .ok target := by
  have complete (kind : Kind) : kind ∈ Kind.all := by cases kind <;> decide
  rw [List.foldlM_map, foldlM_eq_foldl fun before kind _ => overrideCost_document before target kind,
    foldl_replace]
  simp only [complete, if_true]

/-- The document of a configuration restores everything but the mark, which is read from its
text. -/
theorem override_document (listed : config.Listed) (base : Config) :
    base.override config.document =
      (ascii (markText config.mark)).map fun mark => { config with mark := mark } := by
  have read : fieldsOf config.document = .ok { named := config.settings } := rfl
  have hardware : overrideSection config.settings "hardware" base.hardware = .ok config.hardware :=
    Section.override_document listed.hardware "hardware" base.hardware
  have memory : overrideSection config.settings "memory" base.memory = .ok config.memory :=
    Section.override_document (Section.listed_of_plain (fun _ => rfl) _) "memory" base.memory
  have timing : overrideSection config.settings "timing" base.timing = .ok config.timing :=
    Section.override_document listed.timing "timing" base.timing
  have peripherals : overrideCosts config.settings base.peripherals = .ok config.peripherals :=
    foldlM_overrideCost_document base.peripherals config.peripherals
  have mark : overrideMark config.settings base.mark = ascii (markText config.mark) := rfl
  have limits : overrideLimits { named := config.settings } base.limits = .ok config.limits :=
    Section.override_document (Section.listed_of_plain (fun _ => rfl) _) "" base.limits
  simp only [override, read, hardware, memory, timing, peripherals, mark, limits, bind, Except.bind]
  cases ascii (markText config.mark) <;> rfl

/-- A configuration is restored exactly if its mark is ASCII and its sections are not nested too
deeply to be written; the document never leads to another configuration. -/
theorem Listed.restored_iff (listed : config.Listed) {restored : Config} :
    (config.written >>= ofJson) = .ok restored ↔ restored = config ∧ IsAscii config.mark ∧
      (Json.obj config.sections).depth ≤ nestingLimit := by
  rw [bind_eq_ok, written]
  by_cases shallow : (Json.obj config.sections).depth ≤ nestingLimit
  · simp only [if_pos shallow, Except.ok.injEq, exists_eq_left', ofJson, override_document listed,
      map_eq_ok, ascii_markText_eq_ok_iff]
    constructor
    · rintro ⟨mark, ⟨plain, rfl⟩, rfl⟩
      exact ⟨rfl, plain, shallow⟩
    · rintro ⟨rfl, plain, _⟩
      exact ⟨restored.mark, ⟨plain, rfl⟩, rfl⟩
  · simp [shallow]

theorem isAscii_of_ascii {text : String} {mark : List UInt8} (read : ascii text = .ok mark) :
    IsAscii mark := by
  unfold ascii at read
  split at read
  · cases read
  · rename_i none
    cases read
    intro byte member
    obtain ⟨c, inside, rfl⟩ := List.mem_map.mp member
    have small := beyondAscii?_eq_none_iff.mp none c inside
    rw [UInt8.toNat_ofNat']
    omega

theorem isAscii_of_zeros {count : Int} {mark : List UInt8} (read : zeros count = .ok mark) :
    IsAscii mark := by
  unfold zeros at read
  repeat' split at read
  all_goals cases read
  intro byte member
  rw [(List.mem_replicate.mp member).2]
  decide

/-- Only a list of byte values can give a mark that is not ASCII. -/
theorem isAscii_of_markOf {value : Json} {mark : List UInt8} (read : markOf value = .ok mark)
    (unlisted : ∀ items, value ≠ .arr items) : IsAscii mark := by
  unfold markOf at read
  split at read
  · exact isAscii_of_ascii read
  · exact absurd rfl (unlisted _)
  · exact isAscii_of_zeros read
  · exact isAscii_of_zeros read
  · cases read
    exact nofun
  all_goals cases read

theorem exists_list_of_not_isAscii (accepted : ofJson overrides = .ok config)
    (lost : ¬ IsAscii config.mark) :
    ∃ fields items, fieldsOf overrides = .ok fields ∧
      fields.named.get? "bytecode_magic" = some (.arr items) := by
  obtain ⟨fields, read, _, _, _, _, marked, _⟩ := of_override accepted
  unfold overrideMark at marked
  split at marked
  · have plain : IsAscii standard.mark := by decide
    rw [Except.ok.inj marked] at plain
    exact absurd plain lost
  · rename_i value named
    by_contra unlisted
    refine lost (isAscii_of_markOf marked fun items list => unlisted ⟨fields, items, read, ?_⟩)
    rw [named, list]

/-- A configuration that was accepted is restored from its document exactly if its mark is ASCII and
its sections are not nested too deeply. Only a list of byte values gives a mark that is not
ASCII. -/
theorem round_trip_iff (overrides : Json) (config : Config)
    (accepted : ofJson overrides = .ok config) :
    (∀ restored, (config.written >>= ofJson) = .ok restored ↔ restored = config ∧
      IsAscii config.mark ∧ (Json.obj config.sections).depth ≤ nestingLimit) ∧
      (¬ IsAscii config.mark → ∃ fields items, fieldsOf overrides = .ok fields ∧
        fields.named.get? "bytecode_magic" = some (.arr items)) :=
  ⟨fun _ => (listed_standard.override accepted).restored_iff, exists_list_of_not_isAscii accepted⟩

theorem round_trip_iff_of_overrides :
    let overrides := Json.obj
      [("memory", .obj [("string_limit_bytes", .nat 2048)]),
        ("bytecode_magic", .arr [.nat 82, .nat 73])]
    let config : Config :=
      { standard with
        memory := standard.memory.set .textLimit (.nat 2048)
        mark := [82, 73] }
    ofJson overrides = .ok config ∧ (config.written >>= ofJson) = .ok config := by
  intro overrides config
  have accepted : ofJson overrides = .ok config := by with_unfolding_all rfl
  have shallow : (Json.obj config.sections).depth ≤ nestingLimit := by decide
  exact ⟨accepted,
    ((round_trip_iff overrides config accepted).1 config).mpr ⟨rfl, by decide, shallow⟩⟩

/-- A mark beyond ASCII is accepted as a list, but not in the text that the document has for it. -/
theorem round_trip_loses_mark :
    let overrides := Json.obj [("bytecode_magic", .arr [.nat 200])]
    let config : Config := { standard with mark := [200] }
    ofJson overrides = .ok config ∧
      (config.written >>= ofJson) = .error (.notAscii 0 0 "\\ufffd") := by
  intro overrides config
  have accepted : ofJson overrides = .ok config := by with_unfolding_all rfl
  have shallow : (Json.obj config.sections).depth ≤ nestingLimit := by decide
  have lost : ascii (markText [200]) = .error (.notAscii 0 0 "\\ufffd") := by
    with_unfolding_all rfl
  have again := override_document (listed_standard.override accepted) standard
  refine ⟨accepted, ?_⟩
  rw [written, if_pos shallow]
  exact again.trans (congrArg (Except.map _) lost)

end Config

end PinBudget
