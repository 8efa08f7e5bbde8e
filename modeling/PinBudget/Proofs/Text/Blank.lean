import PinBudget.Text.Blank

/-!
Trimming: blanks around a text that neither begins nor ends with one are exactly what trimming takes
away.
-/
namespace PinBudget.Text

variable {text front back before behind : List Char}

/-- Neither the first nor the last character of the text is blank. -/
structure Tidy (text : List Char) : Prop where
  first : ∀ c, text.head? = some c → isBlank c = false
  last : ∀ c, text.getLast? = some c → isBlank c = false

theorem tidy_nil : Tidy [] :=
  ⟨nofun, nofun⟩

theorem tidy_singleton {c : Char} (shown : isBlank c = false) : Tidy [c] := by
  constructor <;> simp [shown]

theorem tidy_enclosed {first last : Char} (opening : isBlank first = false)
    (closing : isBlank last = false) (content : List Char) : Tidy (first :: content ++ [last]) := by
  constructor
  · simp [opening]
  · intro c found
    rw [List.getLast?_concat] at found
    cases found
    exact closing

theorem Tidy.append (tidy : Tidy front) (other : Tidy back) (begun : front ≠ []) (ended : back ≠ [])
    (middle : List Char) : Tidy (front ++ middle ++ back) := by
  obtain ⟨first, others, rfl⟩ := List.exists_cons_of_ne_nil begun
  constructor
  · intro c found
    exact tidy.first c (by simpa using found)
  · intro c found
    rw [List.getLast?_append, List.getLast?_eq_some_getLast ended] at found
    exact other.last c (by rw [List.getLast?_eq_some_getLast ended]; exact found)

theorem trimLeft_blanks (blank : ∀ c ∈ before, isBlank c = true) (text : List Char) :
    trimLeft (before ++ text) = trimLeft text :=
  List.dropWhile_append_of_pos blank

theorem trimRight_blanks (blank : ∀ c ∈ behind, isBlank c = true) (text : List Char) :
    trimRight (text ++ behind) = trimRight text := by
  unfold trimRight
  rw [List.reverse_append, List.dropWhile_append_of_pos]
  simpa using blank

theorem trimLeft_cons {c : Char} (shown : isBlank c = false) (rest : List Char) :
    trimLeft (c :: rest) = c :: rest :=
  List.dropWhile_cons_of_neg (by simp [shown])

theorem trimRight_cons {c : Char} (shown : isBlank c = false) (text rest : List Char) :
    trimRight (text ++ c :: rest) = text ++ c :: trimRight rest := by
  unfold trimRight
  rw [List.reverse_append, List.reverse_cons, List.append_assoc, List.singleton_append,
    List.dropWhile_append]
  split
  · rename_i empty
    rw [List.dropWhile_cons_of_neg (by simp [shown]), List.isEmpty_iff.mp empty]
    simp
  · simp

theorem Tidy.trimLeft_append (tidy : Tidy text) (code : text ≠ []) (rest : List Char) :
    trimLeft (text ++ rest) = text ++ rest := by
  obtain ⟨c, others, rfl⟩ := List.exists_cons_of_ne_nil code
  exact trimLeft_cons (tidy.first c rfl) _

theorem Tidy.trimRight_eq (tidy : Tidy text) : trimRight text = text := by
  rcases List.eq_nil_or_concat text with rfl | ⟨others, c, rfl⟩
  · rfl
  · rw [List.concat_eq_append] at *
    rw [trimRight_cons (tidy.last c (by simp))]
    rfl

/-- Trimming a text with blanks around it gives the text. -/
theorem Tidy.trim_eq (tidy : Tidy text) (blankBefore : ∀ c ∈ before, isBlank c = true)
    (blankBehind : ∀ c ∈ behind, isBlank c = true) : trim (before ++ text ++ behind) = text := by
  rw [trim, List.append_assoc, trimLeft_blanks blankBefore]
  by_cases empty : text = []
  · subst empty
    rw [List.nil_append, ← List.append_nil behind, trimLeft_blanks blankBehind]
    rfl
  · rw [tidy.trimLeft_append empty, trimRight_blanks blankBehind, tidy.trimRight_eq]

theorem Tidy.trim_self (tidy : Tidy text) : trim text = text := by
  have trimmed := tidy.trim_eq (List.forall_mem_nil _) (List.forall_mem_nil _)
  rwa [List.nil_append, List.append_nil] at trimmed

theorem trim_blanks_append (blank : ∀ c ∈ before, isBlank c = true) (text : List Char) :
    trim (before ++ text) = trim text := by
  rw [trim, trimLeft_blanks blank, trim]

theorem exists_trimLeft (text : List Char) :
    ∃ before, (∀ c ∈ before, isBlank c = true) ∧ text = before ++ trimLeft text :=
  ⟨text.takeWhile isBlank, List.all_eq_true.mp List.all_takeWhile,
    List.takeWhile_append_dropWhile.symm⟩

theorem exists_trimRight (text : List Char) :
    ∃ behind, (∀ c ∈ behind, isBlank c = true) ∧ text = trimRight text ++ behind := by
  obtain ⟨before, blank, split⟩ := exists_trimLeft text.reverse
  refine ⟨before.reverse, fun c member => blank c (List.mem_reverse.mp member), ?_⟩
  rw [trimRight, ← trimLeft, ← List.reverse_append, ← split, List.reverse_reverse]

/-- A text is its trimmed part with blanks around it. -/
theorem exists_trim (text : List Char) :
    ∃ before behind, (∀ c ∈ before, isBlank c = true) ∧ (∀ c ∈ behind, isBlank c = true) ∧
      text = before ++ trim text ++ behind := by
  obtain ⟨before, blankBefore, left⟩ := exists_trimLeft text
  obtain ⟨behind, blankBehind, right⟩ := exists_trimRight (trimLeft text)
  refine ⟨before, behind, blankBefore, blankBehind, ?_⟩
  rw [trim, List.append_assoc, ← right, ← left]

theorem trim_infix (text : List Char) : trim text <:+: text := by
  obtain ⟨before, behind, _, _, split⟩ := exists_trim text
  exact ⟨before, behind, split.symm⟩

theorem isBlank_of_head?_trimLeft {c : Char} (first : (trimLeft text).head? = some c) :
    isBlank c = false := by
  have kept := List.head?_dropWhile_not isBlank text
  rw [← trimLeft, first] at kept
  simpa using kept

theorem tidy_trim (text : List Char) : Tidy (trim text) := by
  constructor
  · intro c found
    obtain ⟨behind, _, split⟩ := exists_trimRight (trimLeft text)
    have first : (trimLeft text).head? = some c := by
      rw [split, List.head?_append, ← trim, found]
      rfl
    exact isBlank_of_head?_trimLeft first
  · intro c found
    rw [trim, trimRight, List.getLast?_reverse] at found
    exact isBlank_of_head?_trimLeft found

theorem trim_append_blanks (blank : ∀ c ∈ behind, isBlank c = true) (text : List Char) :
    trim (text ++ behind) = trim text := by
  obtain ⟨before, ending, blankBefore, blankEnding, split⟩ := exists_trim text
  have all : ∀ c ∈ ending ++ behind, isBlank c = true := by
    intro c member
    rcases List.mem_append.mp member with early | late
    · exact blankEnding c early
    · exact blank c late
  have whole := (tidy_trim text).trim_eq blankBefore all
  rwa [← List.append_assoc, ← split] at whole

end PinBudget.Text
