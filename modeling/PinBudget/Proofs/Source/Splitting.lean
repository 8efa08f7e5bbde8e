import PinBudget.Proofs.Source.ArgumentList

/-!
Splitting is stable. A text falls into pieces at the commas that end arguments, and each piece
before such a comma leaves the scan as it was. So a piece is scanned alike on its own and in its
place, it is not split again, and the arguments can be joined and split once more without a change,
also where brackets are unbalanced or a quote stays open.
-/
namespace PinBudget.Source

open ScanState

variable {text piece rest : List Char} {pieces : List (List Char)} {position : Nat}

/-- The text falls into the pieces at the commas that end arguments. Only the last piece may leave
brackets or quotes open. -/
inductive Cut : List Char → List (List Char) → Prop where
  | last {piece : List Char} (uncut : Uncut piece) : Cut piece [piece]
  | comma {piece rest : List Char} {pieces : List (List Char)} (whole : Whole piece)
      (others : Cut rest pieces) : Cut (piece ++ ',' :: rest) (piece :: pieces)

theorem whole_of_separates {c : Char} (uncut : Uncut piece)
    (separates : ((ScanState.run {} piece).mark c).separates = true) : c = ',' ∧ Whole piece := by
  simp only [Mark.separates, mark, Bool.and_eq_true, beq_iff_eq, Bool.not_eq_true',
    Bool.or_eq_false_iff, Option.isSome_eq_false_iff, Option.isNone_iff_eq_none] at separates
  obtain ⟨⟨rfl, depth⟩, outside, -⟩ := separates
  have reached : ScanState.run {} piece = level (bracketDepth piece) := EndsOutside.run_eq outside
  rw [reached, step_plain (by decide)] at depth
  rw [show bracketDepth piece = 0 from depth] at reached
  exact ⟨rfl, uncut, reached⟩

theorem uncut_nil : Uncut [] :=
  nofun

/-- A text falls into pieces, whatever piece has been begun before it. -/
theorem exists_cut_behind (uncut : Uncut piece) (rest : List Char) :
    ∃ pieces, Cut (piece ++ rest) pieces := by
  induction rest generalizing piece with
  | nil =>
    rw [List.append_nil]
    exact ⟨[piece], .last uncut⟩
  | cons c rest ih =>
    by_cases separates : ((ScanState.run {} piece).mark c).separates = true
    · obtain ⟨rfl, whole⟩ := whole_of_separates uncut separates
      obtain ⟨pieces, others⟩ := ih uncut_nil
      exact ⟨piece :: pieces, .comma whole others⟩
    · have longer : Uncut (piece ++ [c]) := by
        intro mark member
        rw [scan, marks_append] at member
        rcases List.mem_append.mp member with early | late
        · exact uncut mark early
        · rw [List.mem_singleton.mp late]
          exact Bool.eq_false_iff.mpr separates
      obtain ⟨pieces, cut⟩ := ih longer
      rw [List.append_assoc] at cut
      exact ⟨pieces, cut⟩

theorem exists_cut (text : List Char) : ∃ pieces, Cut text pieces :=
  exists_cut_behind uncut_nil text

namespace Cut

theorem ne_nil (cut : Cut text pieces) : pieces ≠ [] := by
  cases cut <;> exact List.cons_ne_nil _ _

theorem uncut (cut : Cut text pieces) : ∀ piece ∈ pieces, Uncut piece := by
  induction cut with
  | last uncut => exact List.forall_mem_singleton.mpr uncut
  | comma whole others ih => exact List.forall_mem_cons.mpr ⟨whole.uncut, ih⟩

/-- Nothing of the text is lost: with the commas between them, the pieces are the text. -/
theorem intercalate_eq (cut : Cut text pieces) : [','].intercalate pieces = text := by
  induction cut with
  | last uncut => exact List.intercalate_singleton
  | comma whole others ih =>
    obtain ⟨next, later, rfl⟩ := List.exists_cons_of_ne_nil others.ne_nil
    rw [List.intercalate_cons_cons, ih, List.append_assoc, List.singleton_append]

theorem splitArguments_eq (cut : Cut text pieces) :
    splitArguments text = (pieces.map Text.trim).filter fun part => !part.isEmpty := by
  induction cut with
  | last uncut => exact uncut.splitArguments_eq
  | comma whole others ih =>
    rw [whole.splitArguments_comma, whole.uncut.splitArguments_eq, ih, List.map_cons,
      ← List.filter_append, List.singleton_append]

end Cut

/-- An argument ends at the position: a scan finds a comma there, outside quotes and brackets. -/
def SeparatesAt (text : List Char) (position : Nat) : Prop :=
  (scan text)[position]? = some ⟨',', 0, false⟩

instance (text : List Char) (position : Nat) : Decidable (SeparatesAt text position) :=
  inferInstanceAs (Decidable (_ = _))

/-- The position of a comma between pieces that commas join. -/
def JointAt (pieces : List (List Char)) (position : Nat) : Prop :=
  ∃ front back, front ≠ [] ∧ back ≠ [] ∧ front ++ back = pieces ∧
    ([','].intercalate front).length = position

theorem Uncut.not_separatesAt (uncut : Uncut text) : ¬SeparatesAt text position := by
  intro separates
  have single := uncut _ (List.mem_of_getElem? separates)
  simp [Mark.separates] at single

theorem not_jointAt_singleton : ¬JointAt [piece] position := by
  rintro ⟨front, back, begun, ended, split, -⟩
  rcases List.append_eq_singleton_iff.mp split with ⟨rfl, -⟩ | ⟨-, rfl⟩
  · exact begun rfl
  · exact ended rfl

/-- In a whole text with a comma behind it, that comma comes first, and all further ones come after
it. -/
theorem Whole.separatesAt_comma_iff (whole : Whole piece) :
    SeparatesAt (piece ++ ',' :: rest) position ↔
      position = piece.length ∨
        ∃ further, position = piece.length + 1 + further ∧ SeparatesAt rest further := by
  rw [SeparatesAt, whole.scan_comma]
  rcases Nat.lt_trichotomy position piece.length with before | rfl | behind
  · rw [List.getElem?_append_left (by rwa [length_scan])]
    constructor
    · intro separates
      exact absurd separates whole.uncut.not_separatesAt
    · rintro (same | ⟨further, same, -⟩) <;> omega
  · rw [List.getElem?_append_right (Nat.le_of_eq (length_scan piece)), length_scan, Nat.sub_self]
    exact ⟨fun _ => .inl rfl, fun _ => rfl⟩
  · obtain ⟨further, rfl⟩ := Nat.exists_eq_add_of_le behind
    have place : piece.length + 1 + further - (scan piece).length = further + 1 := by
      rw [length_scan]
      omega
    rw [Nat.succ_eq_add_one, List.getElem?_append_right (by rw [length_scan]; omega), place,
      List.getElem?_cons_succ]
    constructor
    · intro separates
      exact .inr ⟨further, rfl, separates⟩
    · rintro (same | ⟨other, same, separates⟩)
      · omega
      · obtain rfl : other = further := by omega
        exact separates

theorem jointAt_cons_iff (others : pieces ≠ []) :
    JointAt (piece :: pieces) position ↔
      position = piece.length ∨
        ∃ further, position = piece.length + 1 + further ∧ JointAt pieces further := by
  have longer (front : List (List Char)) (begun : front ≠ []) :
      ([','].intercalate (piece :: front)).length =
        piece.length + 1 + ([','].intercalate front).length := by
    obtain ⟨next, others, rfl⟩ := List.exists_cons_of_ne_nil begun
    rw [List.intercalate_cons_cons, List.length_append, List.length_append, List.length_singleton]
  constructor
  · rintro ⟨front, back, begun, ended, split, rfl⟩
    obtain ⟨first, later, rfl⟩ := List.exists_cons_of_ne_nil begun
    obtain ⟨rfl, same⟩ := List.cons.inj split
    by_cases only : later = []
    · subst only
      rw [List.intercalate_singleton]
      exact .inl rfl
    · exact .inr ⟨_, longer later only, later, back, only, ended, same, rfl⟩
  · rintro (rfl | ⟨further, rfl, front, back, begun, ended, split, rfl⟩)
    · exact ⟨[piece], pieces, List.cons_ne_nil _ _, others, rfl,
        by rw [List.intercalate_singleton]⟩
    · exact ⟨piece :: front, back, List.cons_ne_nil _ _, ended, congrArg (piece :: ·) split,
        longer front begun⟩

/-- The arguments of a text end exactly between its pieces. -/
theorem Cut.separatesAt_iff (cut : Cut text pieces) :
    SeparatesAt text position ↔ JointAt pieces position := by
  induction cut generalizing position with
  | last uncut => exact ⟨fun separates => absurd separates uncut.not_separatesAt,
      fun joint => absurd joint not_jointAt_singleton⟩
  | comma whole others ih =>
    rw [whole.separatesAt_comma_iff, jointAt_cons_iff others.ne_nil]
    simp only [ih]

theorem quote_run_blanks {state : ScanState} {blanks : List Char} (sound : state.Sound)
    (blank : ∀ c ∈ blanks, Text.isBlank c = true) : (state.run blanks).quote = state.quote := by
  induction blanks generalizing state with
  | nil => rfl
  | cons c blanks ih =>
    obtain ⟨own, others⟩ := List.forall_mem_cons.mp blank
    have plain : isQuote c = false := by
      apply Bool.eq_false_iff.mpr
      intro quote
      simp only [isQuote, Bool.or_eq_true, beq_iff_eq] at quote
      rcases quote with rfl | rfl <;> exact absurd own (by decide)
    have kept : (state.step c).quote = state.quote := by
      have closing := sound.quoting
      unfold step
      grind
    exact (ih (sound.step c) others).trans kept

/-- Blanks behind a text do not close what it leaves open. -/
theorem run_eq_of_blanks {behind : List Char} (blank : ∀ c ∈ behind, Text.isBlank c = true)
    (closed : ScanState.run {} (text ++ behind) = {}) : ScanState.run {} text = {} := by
  rw [run_append] at closed
  have outside : EndsOutside text := by
    have kept := quote_run_blanks ((sound_level 0).run text) blank
    rw [closed] at kept
    exact kept.symm
  rw [outside.run_eq] at closed ⊢
  rwa [(steady_blanks blank (bracketDepth text)).1] at closed

theorem Uncut.trim (uncut : Uncut piece) : Uncut (Text.trim piece) := by
  obtain ⟨before, behind, blankBefore, -, split⟩ := Text.exists_trim piece
  intro mark member
  have within : mark ∈ scan (Text.trim piece ++ behind) := by
    rw [scan, marks_append]
    exact List.mem_append_left _ member
  apply uncut mark
  rw [split, List.append_assoc, (whole_blanks blankBefore).scan_append]
  exact List.mem_append_right _ within

theorem Whole.trim (whole : Whole piece) : Whole (Text.trim piece) := by
  refine ⟨whole.uncut.trim, ?_⟩
  obtain ⟨before, behind, blankBefore, blankBehind, split⟩ := Text.exists_trim piece
  apply run_eq_of_blanks blankBehind
  have closed := whole.closed
  rwa [split, List.append_assoc, run_append, (whole_blanks blankBefore).closed] at closed

theorem Uncut.splitArguments_trim (uncut : Uncut piece) (shown : Text.trim piece ≠ []) :
    splitArguments (Text.trim piece) = [Text.trim piece] := by
  have same := (Text.tidy_trim piece).trim_self
  have single := uncut.trim.splitArguments_single (by rwa [same])
  rwa [same] at single

theorem splitArguments_blanks {before : List Char} (blank : ∀ c ∈ before, Text.isBlank c = true)
    (text : List Char) : splitArguments (before ++ text) = splitArguments text := by
  have single {piece : List Char} (uncut : Uncut piece) :
      splitArguments (before ++ piece) = splitArguments piece := by
    rw [((whole_blanks blank).uncut_append uncut).splitArguments_eq, uncut.splitArguments_eq,
      Text.trim_blanks_append blank]
  obtain ⟨pieces, cut⟩ := exists_cut text
  cases cut with
  | last uncut => exact single uncut
  | comma whole others =>
    rw [← List.append_assoc, ((whole_blanks blank).append whole).splitArguments_comma,
      single whole.uncut, whole.splitArguments_comma]

/-- Arguments that are joined again are the arguments of the joined text. -/
theorem Cut.splitArguments_join (cut : Cut text pieces) :
    splitArguments ([',', ' '].intercalate (splitArguments text)) = splitArguments text := by
  induction cut with
  | @last piece uncut =>
    by_cases shown : Text.trim piece = []
    · rw [uncut.splitArguments_empty shown]
      rfl
    · rw [uncut.splitArguments_single shown, List.intercalate_singleton]
      exact uncut.splitArguments_trim shown
  | @comma piece rest pieces whole others ih =>
    rw [whole.splitArguments_comma]
    by_cases shown : Text.trim piece = []
    · rw [whole.uncut.splitArguments_empty shown]
      exact ih
    · have own := whole.uncut.splitArguments_trim shown
      rw [whole.uncut.splitArguments_single shown, List.singleton_append]
      by_cases only : splitArguments rest = []
      · rw [only, List.intercalate_singleton]
        exact own
      · obtain ⟨next, later, found⟩ := List.exists_cons_of_ne_nil only
        rw [found] at ih ⊢
        have apart : splitArguments ([' '] ++ [',', ' '].intercalate (next :: later)) =
            next :: later :=
          (splitArguments_blanks (List.forall_mem_singleton.mpr (by decide)) _).trans ih
        rw [List.intercalate_cons_cons, List.append_assoc]
        have joined := whole.trim.splitArguments_comma
          ([' '] ++ [',', ' '].intercalate (next :: later))
        rw [own, apart] at joined
        exact joined

/-- For every text, also one with unbalanced brackets or an open quote: its arguments are shown and
neither begin nor end with a blank; each of them is one argument on its own; joined by commas and
blanks they are the arguments of the joined text; and they are, in order, what is to be seen of the
pieces between the commas that a scan of the text finds outside quotes at depth zero, and with these
commas the pieces are the whole text. -/
theorem splitArguments_stable (text : List Char) :
    (∀ part ∈ splitArguments text, part ≠ [] ∧ Text.Tidy part) ∧
      (∀ part ∈ splitArguments text, splitArguments part = [part]) ∧
      splitArguments ([',', ' '].intercalate (splitArguments text)) = splitArguments text ∧
      ∃ pieces, pieces ≠ [] ∧ [','].intercalate pieces = text ∧
        (∀ position, SeparatesAt text position ↔ JointAt pieces position) ∧
        splitArguments text = (pieces.map Text.trim).filter fun part => !part.isEmpty := by
  obtain ⟨pieces, cut⟩ := exists_cut text
  have seen (part : List Char) (member : part ∈ splitArguments text) :
      ∃ piece ∈ pieces, part = Text.trim piece ∧ Text.trim piece ≠ [] := by
    rw [cut.splitArguments_eq] at member
    obtain ⟨trimmed, shown⟩ := List.mem_filter.mp member
    obtain ⟨piece, among, rfl⟩ := List.mem_map.mp trimmed
    exact ⟨piece, among, rfl, by simpa using shown⟩
  refine ⟨?_, ?_, cut.splitArguments_join,
    pieces, cut.ne_nil, cut.intercalate_eq, fun position => cut.separatesAt_iff,
    cut.splitArguments_eq⟩
  · intro part member
    obtain ⟨piece, -, rfl, shown⟩ := seen part member
    exact ⟨shown, Text.tidy_trim piece⟩
  · intro part member
    obtain ⟨piece, among, rfl, shown⟩ := seen part member
    exact (cut.uncut piece among).splitArguments_trim shown

/-- An argument with commas of its own, an empty one, and a last one that closes a bracket too many
and leaves a quote open. -/
theorem splitArguments_stable_of_open_quote :
    let text := "f(a, ', x'), , b), \"c, d".toList
    let parts := ["f(a, ', x')".toList, "b), \"c, d".toList]
    splitArguments text = parts ∧ (∀ part ∈ parts, splitArguments part = [part]) ∧
      splitArguments ([',', ' '].intercalate parts) = parts ∧
      ∃ pieces, [','].intercalate pieces = text ∧ JointAt pieces 11 ∧ JointAt pieces 13 ∧
        ¬JointAt pieces 17 := by
  intro text parts
  obtain ⟨-, single, joined, pieces, -, whole, cuts, -⟩ := splitArguments_stable text
  have split : splitArguments text = parts := by decide
  rw [split] at single joined
  refine ⟨split, single, joined, pieces, whole, (cuts 11).mp (by decide), (cuts 13).mp (by decide), ?_⟩
  exact fun joint => absurd ((cuts 17).mpr joint) (by decide)

end PinBudget.Source
