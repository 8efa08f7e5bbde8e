import PinBudget.Proofs.Config.Refusal
import PinBudget.Proofs.Config.RoundTrip

/-!
Overrides setting by setting. A document of overrides mentions some settings, each with a value; a
configuration that is overridden has these values and keeps all others. Two overrides in a row do
what one does that mentions all that either mentions, with the values of the second first.
-/
namespace PinBudget

/-- One setting of a configuration, but for the mark of bytecode. -/
inductive Setting where
  | hardware (key : HardwareKey)
  | memory (key : MemoryKey)
  | timing (key : TimingKey)
  | cost (kind : Kind) (key : CostKey)
  | limit (key : LimitKey)

def Config.get (config : Config) : Setting → Json
  | .hardware key => config.hardware key
  | .memory key => config.memory key
  | .timing key => config.timing key
  | .cost kind key => config.peripherals kind key
  | .limit key => config.limits key

namespace Json

/-- The part of a document with a name; nothing where it is left out. -/
def part (document : Json) (name : String) : Json :=
  (document.field? name).getD (.obj [])

/-- What the entries of costs give to a key of a kind, in their order. Any spelling of the kind's
name counts. -/
def costs (entries : Dict String Json) (kind : Kind) (key : CostKey) : List Json :=
  entries.filterMap fun entry =>
    if (Kind.parse entry.1).toOption = some kind then entry.2.field? (SettingKey.label key)
    else none

/-- The value that a document gives to a setting. The last spelling of a kind's name wins. -/
def mention (document : Json) : Setting → Option Json
  | .hardware key => (document.part "hardware").field? (SettingKey.label key)
  | .memory key => (document.part "memory").field? (SettingKey.label key)
  | .timing key => (document.part "timing").field? (SettingKey.label key)
  | .cost kind key => (costs (document.part "peripherals").fields kind key).getLast?
  | .limit key => document.field? (SettingKey.label key)

def mark (document : Json) : Option Json :=
  document.field? "bytecode_magic"

/-- A document of overrides: its parts are objects, with lists for sequences and ASCII for the
mark. -/
structure IsOverride (document : Json) : Prop where
  dict : document.IsDict
  hardware : Section.Formed HardwareKey (document.part "hardware")
  memory : Section.Formed MemoryKey (document.part "memory")
  timing : Section.Formed TimingKey (document.part "timing")
  peripherals : (document.part "peripherals").IsDict
  costs : ∀ entry ∈ (document.part "peripherals").fields, entry.2.IsDict
  mark : ∀ value, document.mark = some value →
    ∃ text : String, value = .str text ∧ ∀ c ∈ text.toList, c.toNat < 128

/-- Every name in the document is the name of something. -/
structure Known (document : Json) : Prop where
  top : ∀ name ∈ document.fields.map Prod.fst, name ∈ Config.parts ∨ Section.IsLabel LimitKey name
  hardware : Section.Known HardwareKey (document.part "hardware")
  memory : Section.Known MemoryKey (document.part "memory")
  timing : Section.Known TimingKey (document.part "timing")
  kinds : ∀ entry ∈ (document.part "peripherals").fields, ∃ kind, Kind.parse entry.1 = .ok kind
  costs : ∀ entry ∈ (document.part "peripherals").fields, Section.Known CostKey entry.2

/-- Why an entry of the costs is refused: its name is no kind, or something in it is unknown. -/
inductive CostRefused (entry : String × Json) : Fault → Prop where
  | kind (unknown : ∀ kind, Kind.parse entry.1 ≠ .ok kind) :
      CostRefused entry (.unknownKind entry.1)
  | settings {kind : Kind} {fault : Fault} (named : Kind.parse entry.1 = .ok kind)
      (refused : Section.Refused CostKey s!"peripherals.{kind.name}" entry.2 fault) :
      CostRefused entry fault

/-- Why a document is refused: a part of it is. -/
inductive Refused (document : Json) : Fault → Prop where
  | hardware {fault : Fault}
      (refused : Section.Refused HardwareKey "hardware" (document.part "hardware") fault) :
      Refused document fault
  | memory {fault : Fault}
      (refused : Section.Refused MemoryKey "memory" (document.part "memory") fault) :
      Refused document fault
  | timing {fault : Fault}
      (refused : Section.Refused TimingKey "timing" (document.part "timing") fault) :
      Refused document fault
  | cost {entry : String × Json} {fault : Fault}
      (member : entry ∈ (document.part "peripherals").fields) (refused : CostRefused entry fault) :
      Refused document fault
  | top {names : List String} (some : names ≠ [])
      (unknown : ∀ name, name ∈ names ↔ name ∈ document.fields.map Prod.fst ∧
        name ∉ Config.parts ∧ ¬Section.IsLabel LimitKey name) :
      Refused document (.unknownSettings "" names)

end Json

namespace Config

open Json

variable {document overrides : Json}

/-- The bytes of the mark that a document gives, if it gives one. -/
def markOver (document : Json) (mark : List UInt8) : List UInt8 :=
  match document.mark with
  | some (.str text) => text.toList.map fun c => UInt8.ofNat c.toNat
  | _ => mark

/-- The configuration with the values that a document mentions. -/
def overlay (document : Json) (base : Config) : Config where
  hardware key := (document.mention (.hardware key)).getD (base.hardware key)
  memory key := (document.mention (.memory key)).getD (base.memory key)
  timing key := (document.mention (.timing key)).getD (base.timing key)
  peripherals kind key := (document.mention (.cost kind key)).getD (base.peripherals kind key)
  limits key := (document.mention (.limit key)).getD (base.limits key)
  mark := markOver document base.mark

theorem get_overlay (document : Json) (base : Config) (setting : Setting) :
    (overlay document base).get setting = (document.mention setting).getD (base.get setting) := by
  cases setting <;> rfl

theorem settled_overrideSection {K : Type} [DecidableEq K] [SettingKey K] [LawfulSettingKey K]
    {name : String} (formed : Section.Formed K (document.part name)) (settings : Section K) :
    Settled (overrideSection document.fields name settings) (Section.Known K (document.part name))
      (Section.Refused K name (document.part name))
      (Section.overlay (document.part name) settings) := by
  unfold overrideSection
  cases found : document.fields.get? name with
  | some own =>
    have settled := Section.settled_override formed name settings
    simpa only [part, field?_eq, found, Option.getD_some] using settled
  | none =>
    simp only [part, field?_eq, found, Option.getD_none]
    exact .inl ⟨nofun, rfl⟩

theorem settled_overrideCost {entry : String × Json} (formed : entry.2.IsDict)
    (costs : Kind → Section CostKey) :
    Settled (overrideCost costs entry)
      ((∃ kind, Kind.parse entry.1 = .ok kind) ∧ Section.Known CostKey entry.2)
      (CostRefused entry)
      fun kind key => ((Json.costs [entry] kind key).getLast?).getD (costs kind key) := by
  unfold overrideCost
  cases parsed : Kind.parse entry.1 with
  | error fault =>
    have cause : fault = .unknownKind entry.1 := by
      unfold Kind.parse at parsed
      split at parsed <;> cases parsed
      rfl
    have unknown (kind : Kind) : Kind.parse entry.1 ≠ .ok kind := by
      rw [parsed]
      exact nofun
    refine .inr ⟨nofun, fault, ?_, rfl⟩
    rw [cause]
    exact .kind unknown
  | ok named =>
    have own : Section.Formed CostKey entry.2 :=
      ⟨formed, fun key sequential => by cases key <;> cases sequential⟩
    have settled := Section.settled_override own s!"peripherals.{named.name}" (costs named)
    have replaced : (fun other => if other = named then Section.overlay entry.2 (costs named)
        else costs other) =
          fun kind key => ((Json.costs [entry] kind key).getLast?).getD (costs kind key) := by
      funext kind key
      by_cases same : kind = named
      · subst kind
        cases found : entry.2.field? (SettingKey.label key) <;>
          simp [Json.costs, parsed, Except.toOption, found, Section.overlay]
      · simp [Json.costs, parsed, Except.toOption, same, Ne.symm same]
    rw [← replaced]
    exact (settled.map _).imp ⟨fun known => ⟨⟨named, rfl⟩, known⟩, And.right⟩ fun _ refused =>
      .settings parsed refused

/-- The entries of the costs are taken one after the other, so the last one wins. -/
theorem settled_foldlM_overrideCost {entries : Dict String Json}
    (formed : ∀ entry ∈ entries, entry.2.IsDict) (costs : Kind → Section CostKey) :
    Settled (entries.foldlM overrideCost costs)
      (∀ entry ∈ entries, (∃ kind, Kind.parse entry.1 = .ok kind) ∧ Section.Known CostKey entry.2)
      (fun fault => ∃ entry ∈ entries, CostRefused entry fault)
      fun kind key => ((Json.costs entries kind key).getLast?).getD (costs kind key) := by
  induction entries generalizing costs with
  | nil => exact .inl ⟨nofun, rfl⟩
  | cons entry rest ih =>
    obtain ⟨own, others⟩ := List.forall_mem_cons.mp formed
    have settled := (settled_overrideCost own costs).bind
      (fun costs => rest.foldlM overrideCost costs) (ih others _)
    have value (kind : Kind) (key : CostKey) :
        ((Json.costs rest kind key).getLast?).getD
          (((Json.costs [entry] kind key).getLast?).getD (costs kind key)) =
        ((Json.costs (entry :: rest) kind key).getLast?).getD (costs kind key) := by
      have split : Json.costs (entry :: rest) kind key =
          Json.costs [entry] kind key ++ Json.costs rest kind key :=
        @List.filterMap_append _ _ [entry] rest _
      rw [split, List.getLast?_append]
      cases (Json.costs rest kind key).getLast? with
      | none => rw [Option.getD_none, Option.none_or]
      | some value => rw [Option.getD_some, Option.some_or, Option.getD_some]
    simp only [value] at settled
    rw [List.foldlM_cons]
    refine settled.imp (by rw [List.forall_mem_cons]) ?_
    rintro fault (refused | ⟨other, member, refused⟩)
    · exact ⟨entry, List.mem_cons_self .., refused⟩
    · exact ⟨other, List.mem_cons_of_mem _ member, refused⟩

theorem settled_overrideCosts (formed : (document.part "peripherals").IsDict)
    (each : ∀ entry ∈ (document.part "peripherals").fields, entry.2.IsDict)
    (costs : Kind → Section CostKey) :
    Settled (overrideCosts document.fields costs)
      (∀ entry ∈ (document.part "peripherals").fields,
        (∃ kind, Kind.parse entry.1 = .ok kind) ∧ Section.Known CostKey entry.2)
      (fun fault => ∃ entry ∈ (document.part "peripherals").fields, CostRefused entry fault)
      fun kind key => (document.mention (.cost kind key)).getD (costs kind key) := by
  have settled := settled_foldlM_overrideCost each costs
  unfold overrideCosts mention
  cases found : document.fields.get? "peripherals" with
  | some own =>
    simp only [part, field?_eq, found, Option.getD_some] at settled formed ⊢
    obtain ⟨entries, rfl, _⟩ := formed
    exact settled
  | none =>
    simp only [part, field?_eq, found, Option.getD_none] at settled ⊢
    exact settled

theorem overrideMark_eq_ok (ascii : ∀ value, document.mark = some value →
      ∃ text : String, value = .str text ∧ ∀ c ∈ text.toList, c.toNat < 128)
    (mark : List UInt8) : overrideMark document.fields mark = .ok (markOver document mark) := by
  rw [overrideMark, markOver, ← field?_eq, ← Json.mark]
  cases found : document.mark with
  | none => rfl
  | some value =>
    obtain ⟨text, rfl, plain⟩ := ascii value found
    simp only [markOf, Config.ascii, beyondAscii?_eq_none_iff.mpr plain]

/-- What stands under no other name has to be a threshold. -/
theorem settled_overrideLimits (dict : document.IsDict) (limits : Section LimitKey) :
    Settled (overrideLimits { named := document.fields } limits)
      (∀ name ∈ document.fields.map Prod.fst, name ∈ parts ∨ Section.IsLabel LimitKey name)
      (fun fault => ∃ names, names ≠ [] ∧ fault = .unknownSettings "" names ∧
        ∀ name, name ∈ names ↔ name ∈ document.fields.map Prod.fst ∧
          name ∉ parts ∧ ¬Section.IsLabel LimitKey name)
      fun key => (document.mention (.limit key)).getD (limits key) := by
  obtain ⟨fields, rfl, distinct⟩ := dict
  have kept (name : String) : name ∈
      (fields.filter fun field => !parts.contains field.1).map Prod.fst ↔
        name ∈ fields.map Prod.fst ∧ name ∉ parts := by
    rw [show (fun field : String × Json => !parts.contains field.1) =
      (fun name => !parts.contains name) ∘ Prod.fst from rfl, ← List.filter_map, List.mem_filter]
    simp
  have formed : Section.Formed LimitKey
      (.obj (fields.filter fun field => !parts.contains field.1)) :=
    ⟨⟨_, rfl, distinct.sublist (List.filter_sublist.map _)⟩,
      fun key sequential => by cases key <;> cases sequential⟩
  have own (key : LimitKey) : parts.contains (SettingKey.label key) = false := by
    cases key <;> decide
  have settled := Section.settled_override formed "" limits
  have value : Section.overlay (.obj (fields.filter fun field => !parts.contains field.1)) limits =
      fun key => (Json.mention (.obj fields) (.limit key)).getD (limits key) := by
    funext key
    simp only [Section.overlay, mention, field?]
    rw [Dict.get?_filter fun name => !parts.contains name, own key]
    rfl
  rw [value] at settled
  refine settled.imp ?_ ?_
  · refine forall_congr' fun name => ?_
    rw [Json.fields, kept, and_imp, or_iff_not_imp_left]
    rfl
  · rintro fault ⟨names, some, rfl, listed⟩
    refine ⟨names, some, rfl, fun name => (listed name).trans ?_⟩
    rw [Json.fields, kept, and_assoc]
    rfl

/-- A document of overrides is accepted exactly if it names nothing unknown, and else refused for
something that it names. -/
theorem settled_override (formed : document.IsOverride) (base : Config) :
    Settled (base.override document) document.Known document.Refused (overlay document base) := by
  have read : fieldsOf document = .ok { named := document.fields } := by
    obtain ⟨fields, rfl, _⟩ := formed.dict
    rfl
  have settled :=
    (settled_overrideSection formed.hardware base.hardware).bind (fun hardware => do
      let memory ← overrideSection document.fields "memory" base.memory
      let timing ← overrideSection document.fields "timing" base.timing
      let peripherals ← overrideCosts document.fields base.peripherals
      let mark ← overrideMark document.fields base.mark
      let limits ← overrideLimits { named := document.fields } base.limits
      return Config.mk hardware memory timing peripherals limits mark) <|
    (settled_overrideSection formed.memory base.memory).bind _ <|
    (settled_overrideSection formed.timing base.timing).bind _ <|
    (settled_overrideCosts formed.peripherals formed.costs base.peripherals).bind _ <|
    (Settled.of_eq_ok (overrideMark_eq_ok formed.mark base.mark)).bind _ <|
    (settled_overrideLimits formed.dict base.limits).map _
  rw [override, read]
  refine settled.imp ?_ ?_
  · constructor
    · rintro ⟨hardware, memory, timing, entries, _, top⟩
      exact ⟨top, hardware, memory, timing, fun entry member => (entries entry member).1,
        fun entry member => (entries entry member).2⟩
    · rintro ⟨top, hardware, memory, timing, kinds, costs⟩
      exact ⟨hardware, memory, timing, fun entry member => ⟨kinds entry member, costs entry member⟩,
        trivial, top⟩
  · rintro fault (refused | refused | refused | ⟨entry, member, refused⟩ | impossible |
      ⟨names, some, rfl, unknown⟩)
    · exact .hardware refused
    · exact .memory refused
    · exact .timing refused
    · exact .cost member refused
    · cases impossible
    · exact .top some unknown

end Config

end PinBudget
