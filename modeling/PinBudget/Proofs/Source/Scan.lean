import PinBudget.Proofs.Text.Blank
import PinBudget.Source.Scan

/-!
Laws of scanning. A scan of two texts in a row is the scan of the first and then the scan of the
second from where the first ended; so what holds of pieces that leave the scan where they found it
holds of texts that are put together from them.
-/
namespace PinBudget.Source

variable {text front back rest : List Char} {depth : Int}

namespace ScanState

/-- The state outside quotes at a depth. -/
abbrev level (depth : Int) : ScanState := { depth := depth }

theorem run_append (state : ScanState) (front back : List Char) :
    state.run (front ++ back) = (state.run front).run back :=
  List.foldl_append

theorem marks_append (state : ScanState) (front back : List Char) :
    state.marks (front ++ back) = state.marks front ++ (state.run front).marks back := by
  induction front generalizing state with
  | nil => rfl
  | cons c rest ih =>
    rw [List.cons_append, marks, marks, ih, List.cons_append]
    rfl

theorem map_char_marks (state : ScanState) (text : List Char) :
    (state.marks text).map Mark.char = text := by
  induction text generalizing state with
  | nil => rfl
  | cons c rest ih => rw [marks, List.map_cons, ih, mark]

/-- A state that a scan can be in: what closes a quoted text is a quote, and only inside quotes does
a backslash protect the next character. -/
structure Sound (state : ScanState) : Prop where
  quoting : ∀ quote, state.quote = some quote → isQuote quote = true
  protecting : state.escaped = true → state.quote ≠ none

theorem sound_level (depth : Int) : (level depth).Sound :=
  ⟨nofun, fun escaped => Bool.noConfusion escaped⟩

theorem Sound.step {state : ScanState} (sound : state.Sound) (c : Char) : (state.step c).Sound := by
  obtain ⟨quoting, protecting⟩ := sound
  constructor <;> unfold ScanState.step <;> grind

theorem Sound.run {state : ScanState} (sound : state.Sound) (text : List Char) :
    (state.run text).Sound := by
  induction text generalizing state with
  | nil => exact sound
  | cons c rest ih => exact ih (sound.step c)

theorem Sound.eq_level {state : ScanState} (sound : state.Sound) (outside : state.quote = none) :
    state = level state.depth := by
  have plain : state.escaped = false :=
    Bool.eq_false_iff.mpr fun escaped => sound.protecting escaped outside
  obtain ⟨depth, quote, escaped⟩ := state
  cases outside
  cases plain
  rfl

theorem level_step_opening {c : Char} (opens : isOpening c = true) (depth : Int) :
    (level depth).step c = level (depth + 1) := by
  simp only [isOpening, Bool.or_eq_true, beq_iff_eq] at opens
  rcases opens with (rfl | rfl) | rfl <;> rfl

theorem level_step_closing {c : Char} (closes : isClosing c = true) (depth : Int) :
    (level depth).step c = level (depth - 1) := by
  simp only [isClosing, Bool.or_eq_true, beq_iff_eq] at closes
  rcases closes with (rfl | rfl) | rfl <;> simp [step, isQuote, isOpening, isClosing]

def deeper (offset : Int) (state : ScanState) : ScanState :=
  { state with depth := state.depth + offset }

end ScanState

def Mark.deeper (offset : Int) (mark : Mark) : Mark :=
  { mark with depth := mark.depth + offset }

namespace ScanState

variable (state : ScanState) (offset : Int)

theorem step_deeper (c : Char) : (state.deeper offset).step c = (state.step c).deeper offset := by
  unfold step deeper
  grind

theorem mark_deeper (c : Char) : (state.deeper offset).mark c = (state.mark c).deeper offset := by
  rw [mark, step_deeper]
  rfl

theorem run_deeper (text : List Char) :
    (state.deeper offset).run text = (state.run text).deeper offset := by
  induction text generalizing state with
  | nil => rfl
  | cons c rest ih =>
    have further := ih (state.step c)
    rwa [← step_deeper] at further

theorem marks_deeper (text : List Char) :
    (state.deeper offset).marks text = (state.marks text).map (Mark.deeper offset) := by
  induction text generalizing state with
  | nil => rfl
  | cons c rest ih => rw [marks, marks, List.map_cons, mark_deeper, step_deeper, ih]

end ScanState

open ScanState

/-- The quotes of the text are closed at its end. -/
def EndsOutside (text : List Char) : Prop :=
  (ScanState.run {} text).quote = none

instance (text : List Char) : Decidable (EndsOutside text) :=
  inferInstanceAs (Decidable (_ = _))

theorem EndsOutside.run_eq (outside : EndsOutside text) :
    ScanState.run {} text = level (bracketDepth text) :=
  ((sound_level 0).run text).eq_level outside

theorem level_eq_deeper (depth : Int) : level depth = deeper depth {} := by
  simp [deeper]

/-- The depth outside a text only adds to the depths inside it. -/
theorem marks_level (depth : Int) (text : List Char) :
    (level depth).marks text = (scan text).map (Mark.deeper depth) := by
  rw [level_eq_deeper, marks_deeper, scan]

theorem EndsOutside.run_level (outside : EndsOutside text) (depth : Int) :
    (level depth).run text = level (bracketDepth text + depth) := by
  rw [level_eq_deeper, run_deeper, outside.run_eq]
  rfl

def isPlain (c : Char) : Bool := !isQuote c && !isOpening c && !isClosing c

theorem step_plain {c : Char} (plain : isPlain c = true) (depth : Int) :
    (level depth).step c = level depth := by
  simp only [isPlain, Bool.and_eq_true, Bool.not_eq_true'] at plain
  simp [step, plain]

theorem mark_plain {c : Char} (plain : isPlain c = true) (depth : Int) :
    (level depth).mark c = ⟨c, depth, false⟩ := by
  rw [mark, step_plain plain]
  simp only [isPlain, Bool.and_eq_true, Bool.not_eq_true'] at plain
  simp [plain]

/-- The text leaves a scan outside quotes where it found it, and all its marks have a property that
may look at the depth outside the text. -/
def Steady (property : Int → Mark → Prop) (text : List Char) : Prop :=
  ∀ depth, (level depth).run text = level depth ∧
    ∀ mark ∈ (level depth).marks text, property depth mark

namespace Steady

variable {property other : Int → Mark → Prop}

theorem nil : Steady property [] :=
  fun _ => ⟨rfl, nofun⟩

theorem append (first : Steady property front) (second : Steady property back) :
    Steady property (front ++ back) := by
  intro depth
  obtain ⟨returned, marked⟩ := first depth
  rw [run_append, marks_append, returned]
  refine ⟨(second depth).1, ?_⟩
  intro mark member
  rcases List.mem_append.mp member with early | late
  · exact marked mark early
  · exact (second depth).2 mark late

theorem imp (steady : Steady property text)
    (weaker : ∀ depth mark, property depth mark → other depth mark) : Steady other text :=
  fun depth => ⟨(steady depth).1, fun mark member => weaker _ _ ((steady depth).2 mark member)⟩

theorem flatMap {α : Type} {items : List α} {write : α → List Char}
    (each : ∀ item ∈ items, Steady property (write item)) :
    Steady property (items.flatMap write) := by
  induction items with
  | nil => exact nil
  | cons item items ih =>
    rw [List.flatMap_cons]
    exact (each item (List.mem_cons_self ..)).append
      (ih fun other member => each other (List.mem_cons_of_mem _ member))

theorem plain {c : Char} (plain : isPlain c = true)
    (holds : ∀ depth, property depth ⟨c, depth, false⟩) :
    Steady property [c] := by
  intro depth
  refine ⟨step_plain plain depth, ?_⟩
  simp only [marks, List.mem_singleton, forall_eq, mark_plain plain]
  exact holds depth

theorem ofPlain (plain : ∀ c ∈ text, isPlain c = true)
    (holds : ∀ c ∈ text, ∀ depth, property depth ⟨c, depth, false⟩) : Steady property text := by
  induction text with
  | nil => exact nil
  | cons c rest ih =>
    have first : Steady property [c] :=
      .plain (plain c (List.mem_cons_self ..)) (holds c (List.mem_cons_self ..))
    exact first.append (ih (fun other member => plain other (List.mem_cons_of_mem _ member))
      fun other member => holds other (List.mem_cons_of_mem _ member))

end Steady

/-- The mark stays inside a depth: no bracket around it closes there, it begins no comment, and it
shows no point where texts are blanked out. -/
structure Mark.Inside (depth : Int) (mark : Mark) : Prop where
  deep : depth ≤ mark.depth
  code : mark.startsComment = false
  pointless : mark.masked ≠ '.'

/-- The mark stays inside a depth and ends no argument there. -/
structure Mark.Unsplit (depth : Int) (mark : Mark) : Prop extends Mark.Inside depth mark where
  joined : mark.char = ',' → mark.quoted = false → depth < mark.depth

theorem Mark.inside_plain {c : Char} (plain : c ≠ '#' ∧ c ≠ '.') (depth : Int) :
    (Mark.mk c depth false).Inside depth :=
  ⟨Int.le_refl _, by simp [startsComment, plain], by simp [masked, plain]⟩

theorem Mark.unsplit_plain {c : Char} (plain : c ≠ '#' ∧ c ≠ '.') (other : c ≠ ',') (depth : Int) :
    (Mark.mk c depth false).Unsplit depth :=
  ⟨inside_plain plain depth, fun comma => absurd comma other⟩

theorem steady_comma : Steady Mark.Inside [','] :=
  .plain (by decide) (Mark.inside_plain (by decide))

/-- What is inside a deeper bracket ends no argument outside it. -/
theorem Mark.Inside.unsplit {mark : Mark} (inside : mark.Inside (depth + 1)) :
    mark.Unsplit depth := by
  obtain ⟨deep, code, pointless⟩ := inside
  exact ⟨⟨by omega, code, pointless⟩, fun _ _ => by omega⟩

theorem Steady.bracketed (steady : Steady Mark.Inside text) :
    Steady Mark.Unsplit ('[' :: text ++ [']']) := by
  intro depth
  obtain ⟨returned, marked⟩ := steady (depth + 1)
  have opened : (level depth).step '[' = level (depth + 1) := rfl
  have closed : (level (depth + 1)).step ']' = level depth := by
    rw [level_step_closing (by decide), Int.add_sub_cancel]
  constructor
  · rw [List.cons_append, run, List.foldl_cons, opened, ← run, run_append, returned]
    exact closed
  · intro mark member
    have first : (level depth).mark '[' = ⟨'[', depth + 1, false⟩ := rfl
    have last : (level (depth + 1)).mark ']' = ⟨']', depth, false⟩ := by
      rw [ScanState.mark, closed]
      rfl
    rw [List.cons_append, marks, opened, marks_append, returned, marks, first, last] at member
    simp only [List.mem_cons, List.mem_append, marks, List.not_mem_nil, or_false] at member
    rcases member with rfl | within | rfl
    · exact (Mark.inside_plain (by decide) _).unsplit
    · exact (marked mark within).unsplit
    · exact Mark.unsplit_plain (by decide) (by decide) depth

/-- The state inside double quotes at a depth. -/
private abbrev inQuotes (depth : Int) : ScanState := { depth := depth, quote := some '"' }

private theorem run_inQuotes (content : ∀ c ∈ text, c ≠ '"' ∧ c ≠ '\\') (depth : Int) :
    (inQuotes depth).run text = inQuotes depth := by
  induction text with
  | nil => rfl
  | cons c rest ih =>
    obtain ⟨open_, unescaped⟩ := content c (List.mem_cons_self ..)
    have stays : (inQuotes depth).step c = inQuotes depth := by simp [step, open_, unescaped]
    rw [run, List.foldl_cons, stays, ← run]
    exact ih fun other member => content other (List.mem_cons_of_mem _ member)

private theorem mem_marks_inQuotes (content : ∀ c ∈ text, c ≠ '"' ∧ c ≠ '\\') (depth : Int)
    {mark : Mark} (member : mark ∈ (inQuotes depth).marks text) :
    mark.depth = depth ∧ mark.quoted = true := by
  induction text with
  | nil => cases member
  | cons c rest ih =>
    obtain ⟨open_, unescaped⟩ := content c (List.mem_cons_self ..)
    have stays : (inQuotes depth).step c = inQuotes depth := by simp [step, open_, unescaped]
    rw [marks, stays, List.mem_cons] at member
    rcases member with rfl | later
    · simp [ScanState.mark, stays]
    · exact ih (fun other member => content other (List.mem_cons_of_mem _ member)) later

theorem Mark.unsplit_quoted {mark : Mark} (quoted : mark.quoted = true) :
    mark.Unsplit mark.depth := by
  refine ⟨⟨Int.le_refl _, by simp [startsComment, quoted], ?_⟩, by simp [quoted]⟩
  unfold masked
  split
  · decide
  · rename_i shown
    intro point
    simp [quoted, point, isQuote] at shown

/-- A quoted text shows nothing of its content. -/
theorem steady_quoted (content : ∀ c ∈ text, c ≠ '"' ∧ c ≠ '\\') :
    Steady Mark.Unsplit ('"' :: text ++ ['"']) := by
  intro depth
  have opened : (level depth).step '"' = inQuotes depth := rfl
  have closed : (inQuotes depth).step '"' = level depth := rfl
  constructor
  · rw [List.cons_append, run, List.foldl_cons, opened, ← run, run_append, run_inQuotes content]
    exact closed
  · intro mark member
    have inner : mark.depth = depth ∧ mark.quoted = true := by
      rw [List.cons_append, marks, opened, marks_append, run_inQuotes content] at member
      simp only [List.mem_cons, List.mem_append, marks, List.not_mem_nil, or_false] at member
      rcases member with rfl | within | rfl
      · exact ⟨rfl, rfl⟩
      · exact mem_marks_inQuotes content depth within
      · exact ⟨rfl, rfl⟩
    have unsplit := Mark.unsplit_quoted inner.2
    rwa [inner.1] at unsplit

/-- A text of code: it closes its quotes, and no comment begins in it. -/
structure Code (text : List Char) : Prop where
  outside : ∀ depth, ∃ after, (level depth).run text = level after
  uncommented : ∀ depth, ∀ mark ∈ (level depth).marks text, mark.startsComment = false

theorem Steady.code (steady : Steady Mark.Inside text) : Code text :=
  ⟨fun depth => ⟨depth, (steady depth).1⟩,
    fun depth mark member => ((steady depth).2 mark member).code⟩

theorem code_of_plain (plain : ∀ c ∈ text, isPlain c = true ∧ c ≠ '#') : Code text := by
  have steady : Steady (fun _ mark => mark.startsComment = false) text :=
    .ofPlain (fun c member => (plain c member).1)
      fun c member depth => by simp [Mark.startsComment, (plain c member).2]
  exact ⟨fun depth => ⟨depth, (steady depth).1⟩, fun depth => (steady depth).2⟩

theorem code_opening : Code ['('] where
  outside depth := ⟨depth + 1, rfl⟩
  uncommented := by simp [marks, ScanState.mark, Mark.startsComment]

theorem code_closing : Code [')'] where
  outside depth := by
    refine ⟨depth - 1, ?_⟩
    rw [run, List.foldl_cons, level_step_closing (by decide)]
    rfl
  uncommented := by simp [marks, ScanState.mark, Mark.startsComment]

theorem Code.append (code : Code front) (more : Code back) : Code (front ++ back) := by
  constructor
  · intro depth
    obtain ⟨middle, reached⟩ := code.outside depth
    rw [run_append, reached]
    exact more.outside middle
  · intro depth mark member
    obtain ⟨middle, reached⟩ := code.outside depth
    rw [marks_append, reached] at member
    rcases List.mem_append.mp member with early | late
    · exact code.uncommented depth mark early
    · exact more.uncommented middle mark late

theorem steady_blanks (blank : ∀ c ∈ text, Text.isBlank c = true) : Steady Mark.Unsplit text := by
  have shown (x : Char) (visible : Text.isBlank x = false) : ∀ c ∈ text, c ≠ x := by
    rintro c member rfl
    rw [blank c member] at visible
    cases visible
  refine .ofPlain ?_ ?_
  · intro c member
    simp only [isPlain, isQuote, isOpening, isClosing, Bool.and_eq_true, Bool.not_eq_true',
      Bool.or_eq_false_iff, beq_eq_false_iff_ne]
    have other := fun x visible => shown x visible c member
    exact ⟨⟨⟨other _ (by decide), other _ (by decide)⟩, ⟨other _ (by decide), other _ (by decide)⟩,
      other _ (by decide)⟩, ⟨other _ (by decide), other _ (by decide)⟩, other _ (by decide)⟩
  · intro c member
    have other := fun x visible => shown x visible c member
    exact Mark.unsplit_plain ⟨other _ (by decide), other _ (by decide)⟩ (other _ (by decide))

theorem Code.takeWhile_append (code : Code text) (rest : List Mark) :
    (scan text ++ rest).takeWhile (fun mark => !mark.startsComment) =
      scan text ++ rest.takeWhile (fun mark => !mark.startsComment) := by
  apply List.takeWhile_append_of_pos
  intro mark member
  rw [code.uncommented 0 mark member]
  rfl

theorem code_blanks (blank : ∀ c ∈ text, Text.isBlank c = true) : Code text :=
  ((steady_blanks blank).imp fun _ _ => (·.toInside)).code

theorem Code.stripComment_eq (code : Code text) : stripComment text = text := by
  have whole := code.takeWhile_append []
  simp only [List.append_nil, List.takeWhile_nil] at whole
  simp [stripComment, whole, length_scan]

/-- A comment behind code goes, and the blanks before it. -/
theorem Code.stripComment_comment (code : Code text) (comment : List Char) :
    stripComment (text ++ '#' :: comment) = Text.trimRight text := by
  obtain ⟨depth, reached⟩ := code.outside 0
  have kept : (scan (text ++ '#' :: comment)).takeWhile (fun mark => !mark.startsComment) =
      scan text := by
    rw [scan, marks_append, ← scan, code.takeWhile_append, reached, marks, mark_plain (by decide),
      List.takeWhile_cons_of_neg (by simp [Mark.startsComment]), List.append_nil]
  have shorter : ((scan text).length == (text ++ '#' :: comment).length) = false := by
    simp [length_scan]
  rw [stripComment, kept, shorter, scan, map_char_marks]
  rfl

theorem cleanLine_eq {indent spaces : List Char} (tidy : Text.Tidy text) (code : Code text)
    (indented : ∀ c ∈ indent, Text.isBlank c = true) (blank : ∀ c ∈ spaces, Text.isBlank c = true) :
    cleanLine (indent ++ text ++ spaces) = text := by
  rw [cleanLine, tidy.trim_eq indented blank, code.stripComment_eq]

theorem cleanLine_comment {indent spaces : List Char} (tidy : Text.Tidy text) (code : Code text)
    (indented : ∀ c ∈ indent, Text.isBlank c = true) (blank : ∀ c ∈ spaces, Text.isBlank c = true)
    (comment : List Char) : cleanLine (indent ++ text ++ (spaces ++ '#' :: comment)) = text := by
  have hash : Text.isBlank '#' = false := by decide
  rw [cleanLine, Text.trim, List.append_assoc, Text.trimLeft_blanks indented]
  by_cases empty : text = []
  · subst empty
    rw [List.nil_append, Text.trimLeft_blanks blank, Text.trimLeft_cons hash,
      ← List.nil_append ('#' :: comment), Text.trimRight_cons hash, Code.stripComment_comment code]
    rfl
  · rw [tidy.trimLeft_append empty, ← List.append_assoc, Text.trimRight_cons hash,
      Code.stripComment_comment (code.append (code_blanks blank)),
      Text.trimRight_blanks blank, tidy.trimRight_eq]

/-- Characters that neither quote nor bracket are shown where texts are blanked out. -/
theorem mask_append_of_plain {front : List Char} (plain : ∀ c ∈ front, isPlain c = true)
    (rest : List Char) : mask (front ++ rest) = front ++ mask rest := by
  induction front with
  | nil => rfl
  | cons c others ih =>
    have own := plain c (List.mem_cons_self ..)
    have further := ih fun other member => plain other (List.mem_cons_of_mem _ member)
    rw [mask, scan] at further
    rw [List.cons_append, mask, scan, marks, mark_plain own, step_plain own,
      List.map_cons, further]
    rfl

theorem mask_cons (c : Char) (rest : List Char) : ∃ others, mask (c :: rest) = c :: others := by
  refine ⟨(ScanState.marks (ScanState.step {} c) rest).map Mark.masked, ?_⟩
  rw [mask, scan, marks, List.map_cons]
  simp [Mark.masked, ScanState.mark]

/-- Where texts are blanked out, the same beginnings without quotes and brackets are seen. -/
theorem prefix_mask {front : List Char} (plain : ∀ c ∈ front, isPlain c = true) (text : List Char) :
    front <+: mask text ↔ front <+: text := by
  induction front generalizing text with
  | nil => simp
  | cons c others ih =>
    have own := plain c (List.mem_cons_self ..)
    cases text with
    | nil => rfl
    | cons d rest =>
      by_cases same : c = d
      · subst same
        have shown := mask_append_of_plain (List.forall_mem_singleton.mpr own) rest
        rw [List.singleton_append, List.singleton_append] at shown
        rw [shown, List.cons_prefix_cons, List.cons_prefix_cons,
          ih fun other member => plain other (List.mem_cons_of_mem _ member)]
      · obtain ⟨hidden, masked⟩ := mask_cons d rest
        rw [masked, List.cons_prefix_cons, List.cons_prefix_cons]
        simp only [same, false_and]

theorem point_notMem_mask (steady : Steady Mark.Inside text) : '.' ∉ mask text := by
  simp only [mask, List.mem_map, not_exists, not_and]
  exact fun mark member => ((steady 0).2 mark member).pointless

/-- A mask over parentheses shows no point if the text between them shows none. -/
theorem mask_parenthesized {inside : List Char} (steady : Steady Mark.Inside inside) :
    ∃ rest, mask ('(' :: (inside ++ [')'])) = '(' :: rest ∧ '.' ∉ rest := by
  have closed : (level 1).mark ')' = ⟨')', 0, false⟩ := by decide
  refine ⟨((level 1).marks inside).map Mark.masked ++ [')'], ?_, ?_⟩
  · have opened : (level 0).step '(' = level 1 := rfl
    rw [mask, scan, marks, opened, marks_append, (steady 1).1,
      marks, closed]
    simp [marks, Mark.masked, ScanState.mark, isQuote]
  · simp only [List.mem_append, List.mem_map, List.mem_singleton, not_or, not_exists, not_and]
    exact ⟨fun mark member => ((steady 1).2 mark member).pointless, by decide⟩

end PinBudget.Source
