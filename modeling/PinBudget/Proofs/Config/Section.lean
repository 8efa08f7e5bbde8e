import PinBudget.Config.Basic
import PinBudget.Proofs.Outcome

/-!
Laws of sections. The document of a section names all its keys, so as an override of any other
section of the same kind it leads to the section that it came from; only sequences have to be lists
for that, and overrides keep them so.
-/
namespace PinBudget

/-- Keys that are all listed, each found again by its name. -/
class LawfulSettingKey (K : Type) [SettingKey K] : Prop where
  mem_all : ∀ key : K, key ∈ SettingKey.all
  key?_label : ∀ key : K, Section.key? (SettingKey.label key) = some key

instance : LawfulSettingKey HardwareKey where
  mem_all key := by cases key <;> decide
  key?_label key := by cases key <;> decide

instance : LawfulSettingKey MemoryKey where
  mem_all key := by cases key <;> decide
  key?_label key := by cases key <;> decide

instance : LawfulSettingKey TimingKey where
  mem_all key := by cases key <;> decide
  key?_label key := by cases key <;> decide

instance : LawfulSettingKey CostKey where
  mem_all key := by cases key <;> decide
  key?_label key := by cases key <;> decide

instance : LawfulSettingKey LimitKey where
  mem_all key := by cases key <;> decide
  key?_label key := by cases key <;> decide

/-- Values set one after the other replace those of all the keys that are named. -/
theorem foldl_replace {κ β : Type} [DecidableEq κ] (value start : κ → β) (keys : List κ) :
    keys.foldl (fun current key other => if other = key then value key else current other) start =
      fun key => if key ∈ keys then value key else start key := by
  induction keys generalizing start with
  | nil => simp
  | cons first rest ih =>
    rw [List.foldl_cons, ih]
    funext key
    by_cases named : key ∈ rest
    · simp [named]
    · by_cases same : key = first <;> simp [named, same]

namespace Section

variable {K : Type} [DecidableEq K] [SettingKey K] {settings start reached : Section K}
variable {key : K} {value overrides list : Json} {field : String × Json} {scope : String}

/-- Every sequence of the section is a list. -/
def Listed (settings : Section K) : Prop :=
  ∀ key, SettingKey.isSequence key = true → ∃ items, settings key = .arr items

omit [DecidableEq K] in
theorem listed_of_plain (plain : ∀ key : K, SettingKey.isSequence key = false)
    (settings : Section K) : settings.Listed := by
  intro key sequential
  rw [plain key] at sequential
  cases sequential

theorem Listed.set (listed : settings.Listed)
    (list : SettingKey.isSequence key = true → ∃ items, value = .arr items) :
    (settings.set key value).Listed := by
  intro queried sequential
  by_cases same : queried = key
  · subst queried
    rw [Section.set, if_pos rfl]
    exact list sequential
  · rw [Section.set, if_neg same]
    exact listed queried sequential

theorem exists_arr_of_sequence (read : sequence value = .ok list) : ∃ items, list = .arr items := by
  unfold sequence at read
  split at read <;> cases read <;> exact ⟨_, rfl⟩

theorem Listed.setNamed (listed : settings.Listed) (done : settings.setNamed field = .ok reached) :
    reached.Listed := by
  unfold Section.setNamed at done
  split at done
  · cases done
    exact listed
  · split at done
    · obtain ⟨value, read, rfl⟩ := map_eq_ok.mp done
      exact listed.set fun _ => exists_arr_of_sequence read
    · rename_i single
      cases done
      exact listed.set fun sequential => absurd sequential single

theorem Listed.override (listed : settings.Listed)
    (done : settings.override scope overrides = .ok reached) : reached.Listed := by
  unfold Section.override at done
  cases overrides with
  | obj fields =>
    simp only at done
    split at done
    · cases done
    · exact foldlM_invariant (fun _ _ _ listed step => Listed.setNamed listed step) listed done
  | _ => cases done

omit [DecidableEq K] [SettingKey K] in
theorem checkNames_of_known {known : String → Bool} {names : List String}
    (all : ∀ name ∈ names, known name = true) : checkNames scope known names = .ok () := by
  have none : names.filter (fun name => !known name) = [] :=
    List.filter_eq_nil_iff.mpr fun name member => by simp [all name member]
  simp [checkNames, none, sortedNames]

variable [LawfulSettingKey K]

theorem setNamed_label (listed : settings.Listed) (start : Section K) (key : K) :
    start.setNamed (SettingKey.label key, settings key) = .ok (start.set key (settings key)) := by
  rw [setNamed, LawfulSettingKey.key?_label]
  cases sequential : SettingKey.isSequence key with
  | false => simp [sequential]
  | true =>
    obtain ⟨items, list⟩ := listed key sequential
    simp [list, sequence, sequential, Except.map]

/-- Whatever section it overrides, a document leads to the section that it came from. -/
theorem override_document (listed : settings.Listed) (scope : String) (start : Section K) :
    start.override scope settings.document = .ok settings := by
  have known : ∀ name ∈ (SettingKey.all.map fun key : K => (SettingKey.label key, settings key)).map
      Prod.fst, (key? (K := K) name).isSome = true := by
    intro name member
    simp only [List.map_map, List.mem_map, Function.comp_apply] at member
    obtain ⟨key, _, rfl⟩ := member
    rw [LawfulSettingKey.key?_label]
    rfl
  have all : (SettingKey.all.foldl (fun current key => Section.set current key (settings key))
      start) = settings := by
    have replaced := foldl_replace settings start SettingKey.all
    simp only [LawfulSettingKey.mem_all, if_true] at replaced
    exact replaced
  simp only [override, document, checkNames_of_known known, List.foldlM_map]
  rw [foldlM_eq_foldl fun before key _ => setNamed_label listed before key, all]

end Section

end PinBudget
