import PinBudget.Estimate.Memory
import PinBudget.Proofs.Source.Pattern
import PinBudget.Proofs.Source.Quoting

/-!
The quoted texts of a line, found in two ways: by a scan that goes through the line once, and as the
occurrences of a pattern that looks for a quote and for the one that closes it. On a line that
closes its quotes both find the same texts at the same places.
-/
namespace PinBudget.LineMemory

open Source

variable {quote : Char} {line rest content : List Char}

/-- Enclosed content is read up to the quote that closes it. -/
theorem quotedContent?_enclosed (quoting : isQuote quote = true) (enclosed : Enclosed quote content)
    (unbroken : '\n' ∉ content) :
    quotedContent? quote (content ++ quote :: rest) = some (content, rest) := by
  induction enclosed with
  | nil =>
    rw [List.nil_append, quotedContent?.eq_3]
    · simp
    · exact fun _ _ escapes _ => ne_backslash_of_isQuote quoting escapes
  | @plain c others inner more ih =>
    rw [List.mem_cons, not_or] at unbroken
    rw [List.cons_append, quotedContent?.eq_3]
    · simp [inner, ih unbroken.2]
    · exact fun _ _ escapes _ => inner.2 escapes
  | @escaped c others more ih =>
    simp only [List.mem_cons, not_or] at unbroken
    rw [List.cons_append, List.cons_append, quotedContent?]
    simp [Ne.symm unbroken.2.1, ih unbroken.2.2]

theorem occurrences_unquoted {c : Char} (unquoting : isQuote c = false) :
    occurrences quotedText (c :: rest) = (occurrences quotedText rest).map (Found.shift 1) := by
  rw [occurrences, occurrencesFrom, quotedText]
  simp only [unquoting, Bool.false_eq_true, ↓reduceIte]
  exact occurrencesFrom_shift (fun _ _ _ => rfl) _ _ 1 0 rest

theorem occurrences_quoted (quoting : isQuote quote = true) (enclosed : Enclosed quote content)
    (unbroken : '\n' ∉ content) :
    occurrences quotedText (quote :: content ++ [quote] ++ rest) =
      ⟨0, content.length + 2, content⟩ ::
        (occurrences quotedText rest).map (Found.shift (content.length + 2)) := by
  have found : quotedText none (quote :: (content ++ quote :: rest)) = some (content, rest) := by
    simp only [quotedText, quoting, ↓reduceIte]
    exact quotedContent?_enclosed quoting enclosed unbroken
  have size : (content ++ quote :: rest).length + 1 - rest.length = content.length + 2 := by
    simp only [List.length_append, List.length_cons]
    omega
  have left : (content ++ quote :: rest).drop (content.length + 1) = rest := by
    rw [List.append_cons]
    exact List.drop_left' (by simp)
  have whole : quote :: content ++ [quote] ++ rest = quote :: (content ++ quote :: rest) := by simp
  rw [whole, occurrences, occurrencesFrom, found]
  simp only [size, Nat.zero_add, Nat.add_succ_sub_one, left]
  exact congrArg _ (occurrencesFrom_shift (fun _ _ _ => rfl) _ none (content.length + 2) 0 rest)

/-- What stands between the quotes of a quoted text. -/
def contentAt (line : List Char) (start stop : Nat) : List Char :=
  (line.take (stop - 1)).drop (start + 1)

/-- The occurrence is a quoted text that a scan of the line reads. -/
def ReadByScan (line : List Char) (found : Found (List Char)) : Prop :=
  (∃ quote, QuotedAt line quote found.start found.stop) ∧
    found.value = contentAt line found.start found.stop

theorem contentAt_append (front rest : List Char) (start : Nat) {stop : Nat} (later : 0 < stop) :
    contentAt (front ++ rest) (front.length + start) (front.length + stop) =
      contentAt rest start stop := by
  have last : front.length + stop - 1 = front.length + (stop - 1) := by omega
  rw [contentAt, last, List.take_length_add_append, Nat.add_assoc, List.drop_length_add_append]
  rfl

theorem readByScan_shift_iff {front : List Char} (outside : EndsOutside front)
    {found : Found (List Char)} :
    ReadByScan (front ++ rest) (found.shift front.length) ↔ ReadByScan rest found := by
  have places (quote : Char) : QuotedAt (front ++ rest) quote (front.length + found.start)
      (front.length + found.stop) ↔ QuotedAt rest quote found.start found.stop :=
    quotedAt_append_iff outside
  have content (own : ∃ quote, QuotedAt rest quote found.start found.stop) :=
    contentAt_append front rest found.start (Nat.zero_lt_of_lt own.choose_spec.closing.1)
  simp only [ReadByScan, Found.shift, places]
  exact and_congr_right fun own => by rw [content own]

/-- Behind text that closes its quotes, the quoted texts of a line are those of what follows. -/
theorem mem_map_shift_iff {front : List Char} (outside : EndsOutside front)
    (known : ∀ inner, inner ∈ occurrences quotedText rest ↔ ReadByScan rest inner)
    (found : Found (List Char)) :
    found ∈ (occurrences quotedText rest).map (Found.shift front.length) ↔
      front.length ≤ found.start ∧ ReadByScan (front ++ rest) found := by
  constructor
  · intro member
    obtain ⟨inner, own, rfl⟩ := List.mem_map.mp member
    exact ⟨Nat.le_add_right .., (readByScan_shift_iff outside).mpr ((known inner).mp own)⟩
  · rintro ⟨later, read⟩
    have closed : found.start + 1 < found.stop := read.1.choose_spec.closing.1
    have moved : found =
        Found.shift front.length
          ⟨found.start - front.length, found.stop - front.length, found.value⟩ := by
      obtain ⟨start, stop, value⟩ := found
      simp only [Found.shift, Found.mk.injEq, and_true] at *
      omega
    rw [moved, readByScan_shift_iff outside] at read
    rw [moved]
    exact List.mem_map_of_mem ((known _).mpr read)

theorem readByScan_front_iff (quoting : isQuote quote = true) (enclosed : Enclosed quote content)
    {found : Found (List Char)} (early : found.start < content.length + 2) :
    ReadByScan (quote :: content ++ [quote] ++ rest) found ↔
      found = ⟨0, content.length + 2, content⟩ := by
  have own : contentAt (quote :: content ++ [quote] ++ rest) 0 (content.length + 2) = content := by
    simp [contentAt]
  obtain ⟨start, stop, value⟩ := found
  simp only [ReadByScan, quotedAt_front_iff quoting enclosed early, Found.mk.injEq]
  constructor
  · rintro ⟨⟨_, _, rfl, rfl⟩, value⟩
    exact ⟨rfl, rfl, value.trans own⟩
  · rintro ⟨rfl, rfl, rfl⟩
    exact ⟨⟨quote, rfl, rfl, rfl⟩, own.symm⟩

/-- The occurrences of quoted texts in a line are those that a scan of the line reads. -/
theorem mem_occurrences_iff (made : Quoting line) (unbroken : '\n' ∉ line)
    (found : Found (List Char)) : found ∈ occurrences quotedText line ↔ ReadByScan line found := by
  induction made generalizing found with
  | nil =>
    rw [occurrences, occurrencesFrom]
    refine iff_of_false List.not_mem_nil ?_
    rintro ⟨⟨_, own⟩, _⟩
    cases own.opening
  | @plain c rest unquoting more ih =>
    have known := ih (List.not_mem_of_not_mem_cons unbroken)
    have apart := mem_map_shift_iff (endsOutside_unquoted unquoting) known found
    rw [occurrences_unquoted unquoting]
    refine apart.trans (and_iff_right_of_imp ?_)
    rintro ⟨⟨_, own⟩, _⟩
    refine Nat.pos_of_ne_zero fun first => ?_
    rw [first] at own
    exact not_quotedAt_zero unquoting own
  | @quoted quote content rest quoting enclosed more ih =>
    obtain ⟨inner, later⟩ : '\n' ∉ content ∧ '\n' ∉ rest := by
      simp only [List.mem_append, List.mem_cons, not_or] at unbroken
      exact ⟨unbroken.1.1.2, unbroken.2⟩
    have apart := mem_map_shift_iff (endsOutside_quoted quoting enclosed) (ih later) found
    have size : (quote :: content ++ [quote]).length = content.length + 2 := by simp
    rw [size] at apart
    rw [occurrences_quoted quoting enclosed inner, List.mem_cons, apart]
    rcases Nat.lt_or_ge found.start (content.length + 2) with early | late
    · rw [readByScan_front_iff quoting enclosed early, iff_false_intro (Nat.not_le.mpr early),
        false_and, or_false]
    · refine (or_iff_right ?_).trans (and_iff_right late)
      rintro rfl
      exact absurd late (by simp)

theorem exists_shift_covers {places index : Nat} {found : List (Found (List Char))} :
    (∃ text ∈ found.map (Found.shift places), text.start ≤ places + index ∧
      places + index < text.stop) ↔ ∃ text ∈ found, text.start ≤ index ∧ index < text.stop := by
  constructor
  · rintro ⟨_, member, covers⟩
    obtain ⟨text, own, rfl⟩ := List.mem_map.mp member
    exact ⟨text, own, by simpa [Found.shift] using covers⟩
  · rintro ⟨text, own, covers⟩
    exact ⟨_, List.mem_map_of_mem own, by simpa [Found.shift] using covers⟩

/-- The characters of a line that a scan marks as quoted are those of the occurrences. -/
theorem quoted_iff_exists_occurrence (made : Quoting line) (unbroken : '\n' ∉ line) {index : Nat}
    {flag : Bool} (here : (quotedFlags line)[index]? = some flag) :
    flag = true ↔ ∃ text ∈ occurrences quotedText line,
      text.start ≤ index ∧ index < text.stop := by
  induction made generalizing index with
  | nil => cases here
  | @plain c rest unquoting more ih =>
    rw [← List.singleton_append, quotedFlags_append (endsOutside_unquoted unquoting),
      quotedFlags_unquoted unquoting] at here
    rw [occurrences_unquoted unquoting]
    cases index with
    | zero =>
      cases here
      simp [Found.shift]
    | succ index =>
      rw [Nat.add_comm, exists_shift_covers]
      exact ih (List.not_mem_of_not_mem_cons unbroken) here
  | @quoted quote content rest quoting enclosed more ih =>
    obtain ⟨inner, later⟩ : '\n' ∉ content ∧ '\n' ∉ rest := by
      simp only [List.mem_append, List.mem_cons, not_or] at unbroken
      exact ⟨unbroken.1.1.2, unbroken.2⟩
    rw [quotedFlags_append (endsOutside_quoted quoting enclosed),
      quotedFlags_quoted quoting enclosed] at here
    rw [occurrences_quoted quoting enclosed inner]
    rcases Nat.lt_or_ge index (content.length + 2) with early | late
    · rw [List.getElem?_append_left (by simpa using early),
        List.getElem?_replicate_of_lt early] at here
      cases here
      simp [early]
    · obtain ⟨behind, rfl⟩ := Nat.exists_eq_add_of_le late
      rw [List.getElem?_append_right (by simp), List.length_replicate,
        Nat.add_sub_cancel_left] at here
      have passed : ¬content.length + 2 + behind < content.length + 2 := by omega
      simp only [List.mem_cons, exists_eq_or_imp, exists_shift_covers, passed, and_false, false_or]
      exact ih later here

/-- On a line that closes its quotes, the pattern for quoted texts and a scan agree. The pattern
occurs exactly where the scan goes from a quote that opens a quoted text to the one that closes it,
with the content between the two; the occurrences come in order and do not overlap, and they cover
exactly what the scan marks as quoted. -/
theorem quoted_texts_as_scanned (line : List Char)
    (unbroken : ∀ c ∈ line, Text.isLineBreak c = false) (outside : EndsOutside line) :
    let found := occurrences quotedText line
    (∀ text : Found (List Char), text ∈ found ↔
        (∃ quote, QuotedAt line quote text.start text.stop) ∧
          text.value = contentAt line text.start text.stop) ∧
      (found.Pairwise fun text later => text.stop ≤ later.start) ∧
      ∀ index mark, (scan line)[index]? = some mark →
        (mark.quoted = true ↔ ∃ text ∈ found, text.start ≤ index ∧ index < text.stop) := by
  have made : Quoting line := quoting_of_closed line 0 outside
  have feedless : '\n' ∉ line := fun member => Bool.noConfusion (unbroken '\n' member)
  refine ⟨mem_occurrences_iff made feedless, pairwise_occurrencesFrom .., ?_⟩
  intro index mark here
  refine quoted_iff_exists_occurrence made feedless ?_
  rw [quotedFlags, List.getElem?_map, here]
  rfl

theorem quoted_texts_as_scanned_of_mixed_quotes :
    let line := "puts \"it's \\\"so\\\"\", 'a \"b' + ''".toList
    let found := occurrences quotedText line
    (∀ c ∈ line, Text.isLineBreak c = false) ∧ EndsOutside line ∧
      found.map (fun text => (text.start, text.stop)) = [(5, 18), (20, 26), (29, 31)] ∧
      (∀ text : Found (List Char), text ∈ found ↔
        (∃ quote, QuotedAt line quote text.start text.stop) ∧
          text.value = contentAt line text.start text.stop) ∧
      (found.Pairwise fun text later => text.stop ≤ later.start) ∧
      ∀ index mark, (scan line)[index]? = some mark →
        (mark.quoted = true ↔ ∃ text ∈ found, text.start ≤ index ∧ index < text.stop) := by
  intro line found
  have plain : (line.all fun c => !Text.isLineBreak c) = true := by decide +kernel
  have unbroken : ∀ c ∈ line, Text.isLineBreak c = false :=
    fun c member => (Bool.not_eq_true' _).mp (List.all_eq_true.mp plain c member)
  have outside : EndsOutside line := by decide +kernel
  exact ⟨unbroken, outside, by decide +kernel, quoted_texts_as_scanned line unbroken outside⟩

end PinBudget.LineMemory
