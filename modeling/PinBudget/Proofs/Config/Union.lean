import PinBudget.Proofs.Config.Mention

/-!
Overrides in a row. The union of two documents mentions each setting that one of them mentions, with
the value of the second where both do. It does at once what the two do one after the other.
-/
namespace PinBudget

namespace Json

variable {K : Type} [SettingKey K]

/-- The section that gives some keys a value. -/
def sectionOf (mention : K → Option Json) : Json :=
  .obj (SettingKey.all.filterMap fun key => (mention key).map (SettingKey.label key, ·))

/-- The document that mentions some settings and perhaps the mark, each under its own name. -/
def ofMentions (mention : Setting → Option Json) (mark : Option Json) : Json :=
  .obj ([("hardware", sectionOf fun key => mention (.hardware key)),
    ("memory", sectionOf fun key => mention (.memory key)),
    ("timing", sectionOf fun key => mention (.timing key)),
    ("peripherals",
      .obj (Kind.all.map fun kind =>
        (kind.name, sectionOf fun key => mention (.cost kind key))))] ++
    (mark.map ("bytecode_magic", ·)).toList ++ (sectionOf fun key => mention (.limit key)).fields)

/-- A document that mentions what two others mention, with the values of the second first. -/
structure IsUnion (first second union : Json) : Prop where
  override : union.IsOverride
  known : union.Known
  mention : ∀ setting, union.mention setting = (second.mention setting).or (first.mention setting)
  mark : union.mark = second.mark.or first.mark

theorem names_sectionOf (mention : K → Option Json) :
    (sectionOf mention).fields.map Prod.fst =
      (SettingKey.all.filter fun key => (mention key).isSome).map SettingKey.label := by
  rw [sectionOf, fields]
  induction SettingKey.all (K := K) with
  | nil => rfl
  | cons key rest ih => cases given : mention key <;> simp [given, ih]

theorem known_sectionOf (mention : K → Option Json) : Section.Known K (sectionOf mention) := by
  intro name member
  rw [names_sectionOf] at member
  obtain ⟨key, _, named⟩ := List.mem_map.mp member
  exact ⟨key, named⟩

section

variable [LawfulSettingKey K] (distinct : (SettingKey.all (K := K)).Nodup)

include distinct

theorem isDict_sectionOf (mention : K → Option Json) : (sectionOf mention).IsDict := by
  refine ⟨_, rfl, ?_⟩
  have names := names_sectionOf mention
  rw [sectionOf, fields] at names
  rw [names]
  exact (distinct.filter _).map fun _ _ => Section.label_injective

theorem field?_sectionOf (mention : K → Option Json) (key : K) :
    (sectionOf mention).field? (SettingKey.label key) = mention key := by
  obtain ⟨fields, same, unique⟩ := isDict_sectionOf distinct mention
  have names := names_sectionOf mention
  rw [field?_eq]
  cases given : mention key with
  | none =>
    rw [Dict.get?_eq_none_iff, names]
    intro member
    obtain ⟨other, kept, named⟩ := List.mem_map.mp member
    rw [Section.label_injective named, List.mem_filter, given] at kept
    cases kept.2
  | some value =>
    rw [same] at names ⊢
    refine Dict.get?_of_mem unique ?_
    have listed : (SettingKey.label key, value) ∈ (sectionOf mention).fields :=
      List.mem_filterMap.mpr ⟨key, LawfulSettingKey.mem_all key, by rw [given]; rfl⟩
    rwa [same] at listed

theorem formed_sectionOf (mention : K → Option Json)
    (listed : ∀ key, SettingKey.isSequence key = true → ∀ value, mention key = some value →
      ∃ items, value = .arr items) : Section.Formed K (sectionOf mention) where
  dict := isDict_sectionOf distinct mention
  listed key sequential value found := by
    rw [field?_sectionOf distinct] at found
    exact listed key sequential value found

end

variable {mention : Setting → Option Json} {mark : Option Json}

theorem names_ofMentions : ((ofMentions mention mark).fields.map Prod.fst).Sublist
    (Config.parts ++ SettingKey.all.map (SettingKey.label (K := LimitKey))) := by
  rw [ofMentions, fields, List.map_append, names_sectionOf]
  refine .append ?_ (List.filter_sublist.map _)
  cases mark with
  | none => exact List.sublist_append_left _ ["bytecode_magic"]
  | some value => exact .refl _

theorem mark_ofMentions : (ofMentions mention mark).mark = mark := by
  cases mark with
  | some value => rfl
  | none =>
    have missing : "bytecode_magic" ∉ (sectionOf fun key => mention (.limit key)).fields.map
        Prod.fst := by
      intro member
      obtain ⟨key, named⟩ := known_sectionOf _ _ member
      exact absurd named (by cases key <;> decide)
    exact (Dict.get?_append _ _ _).trans (Dict.get?_eq_none_iff.mpr missing)

theorem mention_ofMentions (setting : Setting) :
    (ofMentions mention mark).mention setting = mention setting := by
  cases setting with
  | hardware key => exact field?_sectionOf (by decide) (fun key => mention (.hardware key)) key
  | memory key => exact field?_sectionOf (by decide) (fun key => mention (.memory key)) key
  | timing key => exact field?_sectionOf (by decide) (fun key => mention (.timing key)) key
  | cost kind key =>
    have own (kind : Kind) : (sectionOf fun key => mention (.cost kind key)).field?
        (SettingKey.label key) = mention (.cost kind key) :=
      field?_sectionOf (by decide) (fun key => mention (.cost kind key)) key
    change (costs (Kind.all.map fun kind =>
      (kind.name, sectionOf fun key => mention (.cost kind key))) kind key).getLast? = _
    have given : costs (Kind.all.map fun kind =>
        (kind.name, sectionOf fun key => mention (.cost kind key))) kind key =
          (mention (.cost kind key)).toList := by
      cases kind <;>
        simp [costs, Kind.all, Kind.parse_name, Except.toOption, own, List.filterMap_cons] <;>
        cases mention _ <;> rfl
    rw [given]
    cases mention (.cost kind key) <;> rfl
  | limit key =>
    have own := field?_sectionOf (by decide) (fun key => mention (.limit key)) key
    rw [field?_eq] at own
    change (ofMentions mention mark).field? (SettingKey.label key) = _
    rw [ofMentions, field?, Dict.get?_append, own]
    cases mark <;> cases key <;> rfl

theorem known_ofMentions : (ofMentions mention mark).Known where
  top name member := by
    refine (List.mem_append.mp (names_ofMentions.subset member)).imp_right fun member => ?_
    obtain ⟨key, _, named⟩ := List.mem_map.mp member
    exact ⟨key, named⟩
  hardware := known_sectionOf _
  memory := known_sectionOf _
  timing := known_sectionOf _
  kinds entry member := by
    obtain ⟨kind, _, rfl⟩ := List.mem_map.mp member
    exact ⟨kind, kind.parse_name⟩
  costs entry member := by
    obtain ⟨kind, _, rfl⟩ := List.mem_map.mp member
    exact known_sectionOf _

theorem isOverride_ofMentions
    (hardware : ∀ key : HardwareKey, SettingKey.isSequence key = true → ∀ value,
      mention (.hardware key) = some value → ∃ items, value = .arr items)
    (timing : ∀ key : TimingKey, SettingKey.isSequence key = true → ∀ value,
      mention (.timing key) = some value → ∃ items, value = .arr items)
    (ascii : ∀ value, mark = some value →
      ∃ text : String, value = .str text ∧ ∀ c ∈ text.toList, c.toNat < 128) :
    (ofMentions mention mark).IsOverride where
  dict := ⟨_, rfl, names_ofMentions.nodup (by decide)⟩
  hardware := formed_sectionOf (by decide) _ hardware
  memory := formed_sectionOf (by decide) _ fun key sequential => by cases key <;> cases sequential
  timing := formed_sectionOf (by decide) _ timing
  peripherals := ⟨_, rfl, by rw [List.map_map]; exact (by decide : (Kind.all.map Kind.name).Nodup)⟩
  costs entry member := by
    obtain ⟨kind, _, rfl⟩ := List.mem_map.mp member
    exact isDict_sectionOf (by decide) _
  mark value given := by
    rw [mark_ofMentions] at given
    exact ascii value given

/-- Two documents of overrides have a union. -/
theorem exists_isUnion {first second : Json} (former : first.IsOverride)
    (latter : second.IsOverride) : ∃ union, IsUnion first second union := by
  refine ⟨ofMentions (fun setting => (second.mention setting).or (first.mention setting))
    (second.mark.or first.mark), isOverride_ofMentions ?_ ?_ ?_, known_ofMentions,
    mention_ofMentions, mark_ofMentions⟩
  · intro key sequential value given
    rcases Option.or_eq_some_iff.mp given with given | ⟨_, given⟩
    · exact latter.hardware.listed key sequential value given
    · exact former.hardware.listed key sequential value given
  · intro key sequential value given
    rcases Option.or_eq_some_iff.mp given with given | ⟨_, given⟩
    · exact latter.timing.listed key sequential value given
    · exact former.timing.listed key sequential value given
  · intro value given
    rcases Option.or_eq_some_iff.mp given with given | ⟨_, given⟩
    · exact latter.mark value given
    · exact former.mark value given

theorem isOverride_of_costs {entries : Dict String Json} (keyed : (entries.map Prod.fst).Nodup)
    (costs : ∀ entry ∈ entries, entry.2.IsDict) :
    (Json.obj [("peripherals", .obj entries)]).IsOverride where
  dict := ⟨_, rfl, List.nodup_singleton _⟩
  hardware := ⟨⟨[], rfl, List.nodup_nil⟩, fun _ _ _ => nofun⟩
  memory := ⟨⟨[], rfl, List.nodup_nil⟩, fun _ _ _ => nofun⟩
  timing := ⟨⟨[], rfl, List.nodup_nil⟩, fun _ _ _ => nofun⟩
  peripherals := ⟨_, rfl, keyed⟩
  costs := costs
  mark := nofun

end Json

namespace Config

open Json

variable {first second union document : Json}

theorem markOver_union (both : IsUnion first second union) (latter : second.IsOverride)
    (mark : List UInt8) : markOver union mark = markOver second (markOver first mark) := by
  unfold markOver
  rw [both.mark]
  cases given : second.mark with
  | none => rfl
  | some value =>
    obtain ⟨text, rfl, _⟩ := latter.mark value given
    rfl

/-- The union overlays at once what the two documents overlay one after the other. -/
theorem overlay_union (both : IsUnion first second union) (latter : second.IsOverride)
    (base : Config) : overlay union base = overlay second (overlay first base) := by
  have merged (setting : Setting) (value : Json) : (union.mention setting).getD value =
      (second.mention setting).getD ((first.mention setting).getD value) := by
    rw [both.mention]
    cases second.mention setting <;> rfl
  simp only [overlay, merged, markOver_union both latter]

/-- An override is accepted exactly if it names nothing unknown, and a fault says what is unknown.
All settings that it mentions have the value from there and all others that of the base. A second
override on the result does what the union of both does on the base. -/
theorem override_exact (base : Config) (document : Json) (formed : document.IsOverride) :
    ((∃ reached, base.override document = .ok reached) ↔ document.Known) ∧
      (∀ fault, base.override document = .error fault → document.Refused fault) ∧
      ∀ reached, base.override document = .ok reached →
        (∀ setting, reached.get setting =
          (document.mention setting).getD (base.get setting)) ∧
        reached.mark = markOver document base.mark ∧
        ∀ second : Json, second.IsOverride → second.Known →
          (∃ union, IsUnion document second union) ∧
          ∀ union, IsUnion document second union →
            ∃ final, reached.override second = .ok final ∧ base.override union = .ok final := by
  have settled := settled_override formed base
  refine ⟨settled.ok_iff, fun fault => settled.refused_of_error, fun reached done => ?_⟩
  cases settled.eq_of_ok done
  refine ⟨get_overlay document base, rfl, fun second latter known =>
    ⟨exists_isUnion formed latter, fun union both => ?_⟩⟩
  have again := (settled_override latter (overlay document base)).eq_ok known
  have once := (settled_override both.override base).eq_ok both.known
  exact ⟨_, again, once.trans (congrArg Except.ok (overlay_union both latter base))⟩

/-- Two spellings of a kind: the last one wins, and what it leaves out stands as the first one gave
it. A third spelling in a second document, or in the union of both, changes only what it names. -/
theorem override_exact_of_two_spellings :
    let first := Json.obj [("peripherals", .obj
      [("adc", .obj [("cpu_pct", .nat 1), ("power_ma", .nat 2)]),
        (" ADC ", .obj [("cpu_pct", .nat 3)])])]
    let second := Json.obj [("peripherals", .obj [("Adc", .obj [("power_ma", .nat 5)])])]
    ∃ reached union final, standard.override first = .ok reached ∧
      reached.get (.cost .adc .cpu) = .nat 3 ∧ reached.get (.cost .adc .power) = .nat 2 ∧
      reached.get (.cost .pwm .cpu) = standard.get (.cost .pwm .cpu) ∧
      IsUnion first second union ∧ reached.override second = .ok final ∧
      standard.override union = .ok final ∧
      final.get (.cost .adc .cpu) = .nat 3 ∧ final.get (.cost .adc .power) = .nat 5 := by
  intro first second
  have formed : first.IsOverride := isOverride_of_costs (by decide) <|
    List.forall_mem_cons.mpr ⟨⟨_, rfl, by decide⟩, List.forall_mem_singleton.mpr
      ⟨_, rfl, by decide⟩⟩
  have latter : second.IsOverride := isOverride_of_costs (by decide) <|
    List.forall_mem_singleton.mpr ⟨_, rfl, by decide⟩
  have known : second.Known :=
    (override_exact standard second latter).1.mp (by with_unfolding_all exact ⟨_, rfl⟩)
  obtain ⟨reached, done⟩ : ∃ reached, standard.override first = .ok reached := by
    with_unfolding_all exact ⟨_, rfl⟩
  obtain ⟨values, _, merged⟩ := (override_exact standard first formed).2.2 reached done
  obtain ⟨⟨union, both⟩, once⟩ := merged second latter known
  obtain ⟨final, again, together⟩ := once union both
  obtain ⟨ended, _⟩ := (override_exact reached second latter).2.2 final again
  have power : reached.get (.cost .adc .power) = .nat 2 := by
    rw [values]
    rfl
  have cpu : reached.get (.cost .adc .cpu) = .nat 3 := by
    rw [values]
    rfl
  have other : reached.get (.cost .pwm .cpu) = standard.get (.cost .pwm .cpu) := by
    rw [values]
    rfl
  refine ⟨reached, union, final, done, cpu, power, other, both, again, together, ?_, ?_⟩
  · rw [ended, ← cpu]
    rfl
  · rw [ended]
    rfl

end Config

end PinBudget
