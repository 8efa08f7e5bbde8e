import PinBudget.Source.Pattern

/-!
Where patterns occur. The occurrences of a pattern come in order and do not overlap. A pattern that
cannot match without a point in it occurs nowhere in a text without points, so a match that is
followed by no point is the only one.
-/
namespace PinBudget.Source

/-- A text without points holds nothing that a pattern with a point in it could match. -/
theorem occurrencesFrom_of_never {α : Type} {pattern : Pattern α} {text : List Char}
    (pointed : ∀ before text found, pattern before text = some found → '.' ∈ text)
    (pointless : '.' ∉ text) (before : Option Char) (offset : Nat) :
    occurrencesFrom pattern before offset text = [] := by
  induction text generalizing before offset with
  | nil => rw [occurrencesFrom]
  | cons c rest ih =>
    cases found : pattern before (c :: rest) with
    | some found => exact absurd (pointed _ _ _ ‹_›) pointless
    | none =>
      rw [occurrencesFrom, found]
      exact ih (fun member => pointless (List.mem_cons_of_mem _ member)) _ _

theorem occurrences_of_front {α : Type} {pattern : Pattern α} {front rest : List Char} {value : α}
    (pointed : ∀ before text found, pattern before text = some found → '.' ∈ text)
    (found : pattern none (front ++ rest) = some (value, rest)) (shown : front ≠ [])
    (pointless : '.' ∉ rest) :
    occurrences pattern (front ++ rest) = [⟨0, front.length, value⟩] := by
  obtain ⟨c, others, rfl⟩ := List.exists_cons_of_ne_nil shown
  have size : (others ++ rest).length + 1 - rest.length = others.length + 1 := by
    rw [List.length_append]
    omega
  rw [List.cons_append] at found
  rw [occurrences, List.cons_append, occurrencesFrom, found]
  simp only [size, Nat.add_sub_cancel, List.drop_left, Nat.zero_add, List.length_cons,
    occurrencesFrom_of_never pointed pointless]

/-- The occurrence that many places further. -/
def Found.shift {α : Type} (places : Nat) (found : Found α) : Found α :=
  { found with start := places + found.start, stop := places + found.stop }

/-- A pattern that does not look at what stands before it is found at the same places of a text
wherever the text stands. -/
theorem occurrencesFrom_shift {α : Type} {pattern : Pattern α}
    (blind : ∀ before other text, pattern before text = pattern other text)
    (before other : Option Char) (places offset : Nat) (text : List Char) :
    occurrencesFrom pattern before (places + offset) text =
      (occurrencesFrom pattern other offset text).map (Found.shift places) := by
  fun_induction occurrencesFrom pattern other offset text generalizing before with
  | case1 => rw [occurrencesFrom]; rfl
  | case2 other offset c rest none_ ih =>
    rw [occurrencesFrom, blind before other, none_]
    exact ih (some c)
  | case3 other offset c rest value after found size ih =>
    rw [occurrencesFrom, blind before other, found, List.map_cons, ← ih]
    simp only [Found.shift, Nat.add_assoc]
    rfl

theorem le_start_of_mem {α : Type} {pattern : Pattern α} {before : Option Char} {offset : Nat}
    {text : List Char} {found : Found α} (member : found ∈ occurrencesFrom pattern before offset text) :
    offset ≤ found.start := by
  fun_induction occurrencesFrom pattern before offset text with
  | case1 => cases member
  | case2 before offset c rest none_ ih => exact Nat.le_of_succ_le (ih member)
  | case3 before offset c rest value after own size ih =>
    rcases List.mem_cons.mp member with rfl | later
    · exact Nat.le_refl _
    · exact Nat.le_trans (Nat.le_add_right ..) (ih later)

/-- Each occurrence of a pattern begins behind the one before it. -/
theorem pairwise_occurrencesFrom {α : Type} (pattern : Pattern α) (before : Option Char)
    (offset : Nat) (text : List Char) : (occurrencesFrom pattern before offset text).Pairwise
      fun found later => found.stop ≤ later.start := by
  fun_induction occurrencesFrom pattern before offset text with
  | case1 => exact .nil
  | case2 before offset c rest none_ ih => exact ih
  | case3 before offset c rest value after own size ih =>
    exact .cons (fun later member => le_start_of_mem member) ih

theorem after?_eq_some_iff {expected text rest : List Char} :
    after? expected text = some rest ↔ text = expected ++ rest := by
  rw [after?]
  split
  · rename_i begins
    obtain ⟨others, rfl⟩ := List.isPrefixOf_iff_prefix.mp begins
    simp [eq_comm]
  · rename_i apart
    constructor
    · intro none_
      cases none_
    · rintro rfl
      exact absurd (List.isPrefixOf_iff_prefix.mpr (List.prefix_append ..)) apart

theorem mem_of_after? {expected text rest : List Char} (behind : after? expected text = some rest) :
    ∀ c ∈ expected, c ∈ text := by
  rw [after?_eq_some_iff.mp behind]
  exact fun c member => List.mem_append_left rest member

theorem splitSigils_suffix (text : List Char) : (splitSigils text).2 <:+ text := by
  unfold splitSigils
  split
  · exact List.suffix_append ['@', '@'] _
  · exact List.suffix_append ['@'] _
  · exact List.suffix_refl _

theorem behindVariable?_suffix {text rest : List Char} (behind : behindVariable? text = some rest) :
    rest <:+ text := by
  have body := splitSigils_suffix text
  unfold behindVariable? at behind
  split at behind
  · cases behind
  · rename_i c others same
    rw [same] at body
    split at behind
    · cases behind
      exact ((List.dropWhile_suffix _).trans (List.suffix_cons c others)).trans body
    · cases behind

end PinBudget.Source
