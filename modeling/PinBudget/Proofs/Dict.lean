import PinBudget.Dict

/-!
Laws of dictionaries: what a lookup finds after a key is set, behind another dictionary, or in a
part of one.
-/
namespace PinBudget.Dict

variable {α β : Type} [BEq α] {dict base : Dict α β} {key : α} {value : β}

@[simp]
theorem get?_nil : Dict.get? ([] : Dict α β) key = none :=
  rfl

theorem get?_cons (entry : α × β) (rest : Dict α β) (key : α) :
    Dict.get? (entry :: rest) key = if key == entry.1 then some entry.2 else rest.get? key := by
  rw [Dict.get?, List.lookup_cons]
  cases key == entry.1 <;> rfl

theorem get?_append (front back : Dict α β) (key : α) :
    Dict.get? (front ++ back) key = (front.get? key).or (back.get? key) :=
  List.lookup_append

theorem get?_of_prefix (kept : dict <+: base) (found : dict.get? key = some value) :
    base.get? key = some value :=
  kept.lookup_eq_some found

theorem map_fst_set {value other : β} {first second : Dict α β}
    (same : first.map Prod.fst = second.map Prod.fst) :
    (first.set key value).map Prod.fst = (second.set key other).map Prod.fst := by
  induction first generalizing second with
  | nil =>
    cases List.map_eq_nil_iff.mp same.symm
    rfl
  | cons entry rest ih =>
    cases second with
    | nil => cases same
    | cons partner others =>
      obtain ⟨head, tail⟩ := List.cons.inj same
      rw [Dict.set, Dict.set, ← head]
      split
      · simp only [List.map_cons, tail]
      · simp only [List.map_cons, ih tail]

variable [LawfulBEq α]

theorem get?_eq_none_iff : dict.get? key = none ↔ key ∉ dict.map Prod.fst := by
  simp only [Dict.get?, List.lookup_eq_none_iff, bne_iff_ne, List.mem_map, not_exists, not_and]
  constructor
  · intro different entry member same
    exact different entry member same.symm
  · intro missing entry member same
    exact missing entry member same.symm

theorem has_iff_mem_keys : dict.has key = true ↔ key ∈ dict.map Prod.fst := by
  rw [Dict.has, Option.isSome_iff_ne_none, ne_eq, get?_eq_none_iff, Classical.not_not]

theorem mem_of_get? (found : dict.get? key = some value) : (key, value) ∈ dict := by
  obtain ⟨before, after, same, _⟩ := List.lookup_eq_some_iff.mp found
  simp [same]

theorem get?_of_mem (distinct : (dict.map Prod.fst).Nodup) (member : (key, value) ∈ dict) :
    dict.get? key = some value := by
  induction dict with
  | nil => cases member
  | cons entry rest ih =>
    obtain ⟨missing, distinctRest⟩ := List.nodup_cons.mp distinct
    rw [get?_cons]
    rcases List.mem_cons.mp member with rfl | later
    · simp
    · have other : key ≠ entry.1 := by
        rintro rfl
        exact missing (List.mem_map.mpr ⟨_, later, rfl⟩)
      simp [other, ih distinctRest later]

theorem get?_concat_of_ne {entry : α × β} (other : key ≠ entry.1) :
    Dict.get? (dict ++ [entry]) key = dict.get? key := by
  rw [get?_append, get?_cons]
  simp [other]

theorem get?_set (dict : Dict α β) (key : α) (value : β) (other : α) :
    (dict.set key value).get? other = if other == key then some value else dict.get? other := by
  induction dict with
  | nil => rw [Dict.set, get?_cons]
  | cons entry rest ih =>
    rw [Dict.set]
    by_cases own : entry.1 = key
    · subst own
      by_cases same : other = entry.1 <;> simp [get?_cons, same]
    · by_cases same : other = entry.1
      · simp [get?_cons, same, own]
      · simp [get?_cons, same, own, ih]

/-- The part of a dictionary whose keys pass a test has the values of these keys. -/
theorem get?_filter (keep : α → Bool) (dict : Dict α β) (key : α) :
    Dict.get? (dict.filter fun entry => keep entry.1) key =
      if keep key then dict.get? key else none := by
  induction dict with
  | nil => simp
  | cons entry rest ih =>
    rw [List.filter_cons, get?_cons]
    by_cases same : key = entry.1
    · subst key
      by_cases kept : keep entry.1 <;> simp [kept, get?_cons, ih]
    · by_cases kept : keep entry.1 <;> simp [kept, same, get?_cons, ih]

theorem get?_without (dict : Dict α β) (key other : α) :
    (dict.without key).get? other = if other == key then none else dict.get? other := by
  rw [Dict.without, get?_filter fun name => !(name == key)]
  by_cases same : other = key <;> simp [same]

theorem set_of_absent (absent : dict.get? key = none) :
    dict.set key value = dict ++ [(key, value)] := by
  induction dict with
  | nil => rfl
  | cons entry rest ih =>
    rw [get?_cons] at absent
    by_cases same : key = entry.1
    · simp [same] at absent
    · simp only [beq_iff_eq, same, ↓reduceIte] at absent
      rw [Dict.set]
      simp [Ne.symm same, ih absent]

/-- The entries whose keys are new to `base` have the values of the new keys only. -/
theorem get?_filter_new (base dict : Dict α β) (key : α) :
    Dict.get? (dict.filter fun entry => !base.has entry.1) key =
      if base.has key then none else dict.get? key := by
  rw [get?_filter fun name => !base.has name]
  cases base.has key <;> rfl

/-- Behind another dictionary, the entries with new keys do as well as all of them. -/
theorem get?_append_new (base dict : Dict α β) (key : α) :
    Dict.get? (base ++ dict.filter fun entry => !base.has entry.1) key =
      (base.get? key).or (dict.get? key) := by
  rw [get?_append, get?_filter_new]
  cases found : base.get? key <;> simp [Dict.has, found]

end PinBudget.Dict
