import Mathlib.Data.List.Nodup
import PinBudget.Config.Override
import PinBudget.Proofs.Config.Section
import PinBudget.Proofs.Dict

/-!
What an override of one part of a configuration comes to. It is refused exactly if it names
something that the part does not have; else every setting that it names has the value from there,
and all others stay as they are.
-/
namespace PinBudget

/-- An outcome that has a value exactly under a condition, and else one of some faults. -/
def Settled {α : Type} (outcome : Except Fault α) (known : Prop) (refused : Fault → Prop)
    (value : α) : Prop :=
  known ∧ outcome = .ok value ∨ ¬known ∧ ∃ fault, refused fault ∧ outcome = .error fault

namespace Settled

variable {α β : Type} {outcome : Except Fault α} {known more : Prop}
variable {refused further : Fault → Prop} {value : α} {result : β} {fault : Fault}

theorem of_eq_ok (same : outcome = .ok value) : Settled outcome True (fun _ => False) value :=
  .inl ⟨trivial, same⟩

theorem ok_iff (settled : Settled outcome known refused value) :
    (∃ reached, outcome = .ok reached) ↔ known := by
  rcases settled with ⟨holds, same⟩ | ⟨fails, fault, _, same⟩
  · simp [same, holds]
  · simp [same, fails]

theorem eq_of_ok (settled : Settled outcome known refused value) {reached : α}
    (done : outcome = .ok reached) : reached = value := by
  rcases settled with ⟨_, same⟩ | ⟨_, fault, _, same⟩ <;> rw [same] at done <;> cases done
  rfl

theorem eq_ok (settled : Settled outcome known refused value) (holds : known) :
    outcome = .ok value := by
  rcases settled with ⟨_, done⟩ | ⟨fails, _⟩
  · exact done
  · exact absurd holds fails

theorem refused_of_error (settled : Settled outcome known refused value)
    (failed : outcome = .error fault) : refused fault := by
  rcases settled with ⟨_, same⟩ | ⟨_, cause, own, same⟩ <;> rw [same] at failed <;> cases failed
  exact own

theorem imp (settled : Settled outcome known refused value) (same : known ↔ more)
    (weaker : ∀ fault, refused fault → further fault) : Settled outcome more further value := by
  rcases settled with ⟨holds, done⟩ | ⟨fails, fault, own, failed⟩
  · exact .inl ⟨same.mp holds, done⟩
  · exact .inr ⟨fun holds => fails (same.mpr holds), fault, weaker fault own, failed⟩

/-- Of two steps in a row the first one that is refused decides. -/
theorem bind (next : α → Except Fault β) (settled : Settled outcome known refused value)
    (later : Settled (next value) more further result) :
    Settled (outcome >>= next) (known ∧ more) (fun fault => refused fault ∨ further fault)
      result := by
  rcases settled with ⟨holds, done⟩ | ⟨fails, fault, own, failed⟩
  · rw [done]
    rcases later with ⟨also, done⟩ | ⟨fails, fault, own, failed⟩
    · exact .inl ⟨⟨holds, also⟩, done⟩
    · exact .inr ⟨fun both => fails both.2, fault, .inr own, failed⟩
  · rw [failed]
    exact .inr ⟨fun both => fails both.1, fault, .inl own, rfl⟩

theorem map (settled : Settled outcome known refused value) (change : α → β) :
    Settled (outcome >>= fun reached => .ok (change reached)) known refused (change value) := by
  rcases settled with ⟨holds, rfl⟩ | ⟨fails, fault, own, rfl⟩
  · exact .inl ⟨holds, rfl⟩
  · exact .inr ⟨fails, fault, own, rfl⟩

end Settled

namespace Json

/-- The fields of an object; anything else has none. -/
def fields : Json → Dict String Json
  | obj fields => fields
  | null | bool _ | number _ | str _ | arr _ => []

/-- The document is an object whose names are all different. -/
def IsDict (json : Json) : Prop :=
  ∃ fields : Dict String Json, json = .obj fields ∧ (fields.map Prod.fst).Nodup

theorem field?_eq (json : Json) (name : String) : json.field? name = json.fields.get? name := by
  cases json <;> rfl

end Json

namespace Section

section

variable (K : Type) [SettingKey K]

/-- The name of a key. -/
def IsLabel (name : String) : Prop :=
  ∃ key : K, SettingKey.label key = name

/-- Every field has the name of a key. -/
def Known (overrides : Json) : Prop :=
  ∀ name ∈ overrides.fields.map Prod.fst, IsLabel K name

/-- The fault says which fields do not have the name of a key. -/
def Refused (scope : String) (overrides : Json) (fault : Fault) : Prop :=
  ∃ names, names ≠ [] ∧ fault = .unknownSettings scope names ∧
    ∀ name, name ∈ names ↔ name ∈ overrides.fields.map Prod.fst ∧ ¬IsLabel K name

/-- An object that gives lists to the keys of sequences. -/
structure Formed (overrides : Json) : Prop where
  dict : overrides.IsDict
  listed : ∀ key : K, SettingKey.isSequence key = true → ∀ value,
    overrides.field? (SettingKey.label key) = some value → ∃ items, value = .arr items

end

variable {K : Type} [DecidableEq K] [SettingKey K]

/-- The section with the values of the fields that have the names of its keys. -/
def overlay (overrides : Json) (settings : Section K) : Section K := fun key =>
  (overrides.field? (SettingKey.label key)).getD (settings key)

omit [DecidableEq K] in
theorem mem_sortedNames {name : String} {names : List String} :
    name ∈ sortedNames names ↔ name ∈ names := by
  rw [sortedNames, List.mem_eraseDups, List.mem_mergeSort]

variable [LawfulSettingKey K] {name : String}

omit [DecidableEq K] in
theorem isSome_key?_iff : (key? (K := K) name).isSome = true ↔ IsLabel K name := by
  constructor
  · intro known
    obtain ⟨key, found⟩ := Option.isSome_iff_exists.mp known
    exact ⟨key, by simpa using List.find?_some found⟩
  · rintro ⟨key, rfl⟩
    rw [LawfulSettingKey.key?_label]
    rfl

omit [DecidableEq K] in
theorem label_injective {key other : K}
    (same : SettingKey.label key = SettingKey.label other) : key = other := by
  have found := LawfulSettingKey.key?_label key
  rw [same, LawfulSettingKey.key?_label] at found
  exact (Option.some.inj found).symm

theorem foldlM_setNamed {fields : Dict String Json} (distinct : (fields.map Prod.fst).Nodup)
    (known : ∀ name ∈ fields.map Prod.fst, IsLabel K name)
    (listed : ∀ key : K, SettingKey.isSequence key = true → ∀ value,
      fields.get? (SettingKey.label key) = some value → ∃ items, value = .arr items)
    (settings : Section K) :
    fields.foldlM setNamed settings = .ok (overlay (.obj fields) settings) := by
  induction fields generalizing settings with
  | nil => rfl
  | cons field rest ih =>
    obtain ⟨name, value⟩ := field
    obtain ⟨⟨key, rfl⟩, others⟩ := List.forall_mem_cons.mp known
    obtain ⟨missing, apart⟩ := List.nodup_cons.mp distinct
    have set : settings.setNamed (SettingKey.label key, value) = .ok (settings.set key value) := by
      rw [setNamed, LawfulSettingKey.key?_label]
      cases sequential : SettingKey.isSequence key with
      | false => simp [sequential]
      | true =>
        obtain ⟨items, rfl⟩ := listed key sequential value (by simp [Dict.get?_cons])
        simp [sequence, sequential, Except.map]
    have later (other : K) (sequential : SettingKey.isSequence other = true) (own : Json)
        (found : Dict.get? rest (SettingKey.label other) = some own) :
        ∃ items, own = .arr items := by
      refine listed other sequential own ?_
      have different : SettingKey.label other ≠ SettingKey.label key := by
        intro same
        rw [same, Dict.get?_eq_none_iff.mpr missing] at found
        cases found
      simpa [Dict.get?_cons, different] using found
    rw [List.foldlM_cons, set]
    refine (ih apart others later (settings.set key value)).trans (congrArg Except.ok ?_)
    funext other
    simp only [overlay, Json.field?, Dict.get?_cons, beq_iff_eq]
    by_cases same : other = key
    · subst other
      simp [Dict.get?_eq_none_iff.mpr missing, Section.set]
    · have different : SettingKey.label other ≠ SettingKey.label key :=
        fun equal => same (label_injective equal)
      simp [same, different, Section.set]

/-- A section is overridden exactly if all fields have the names of keys. -/
theorem settled_override (formed : Formed K overrides) (scope : String) (settings : Section K) :
    Settled (settings.override scope overrides) (Known K overrides)
      (Refused K scope overrides) (overlay overrides settings) := by
  obtain ⟨fields, rfl, distinct⟩ := formed.dict
  have unknown (name : String) : name ∈ sortedNames
      ((fields.map Prod.fst).filter fun name => !(key? (K := K) name).isSome) ↔
        name ∈ fields.map Prod.fst ∧ ¬IsLabel K name := by
    rw [mem_sortedNames, List.mem_filter, Bool.not_eq_true', ← Bool.not_eq_true, isSome_key?_iff]
  simp only [override, checkNames]
  cases strangers : sortedNames
      ((fields.map Prod.fst).filter fun name => !(key? (K := K) name).isSome) with
  | nil =>
    have known : ∀ name ∈ fields.map Prod.fst, IsLabel K name := by
      intro name member
      by_contra stranger
      have listed := (unknown name).mpr ⟨member, stranger⟩
      rw [strangers] at listed
      cases listed
    exact .inl ⟨known, foldlM_setNamed distinct known formed.listed settings⟩
  | cons first rest =>
    rw [strangers] at unknown
    refine .inr ⟨fun known => ?_, _, ⟨first :: rest, List.cons_ne_nil _ _, rfl, unknown⟩, rfl⟩
    obtain ⟨member, stranger⟩ := (unknown first).mp (List.mem_cons_self ..)
    exact stranger (known first member)

end Section

end PinBudget
