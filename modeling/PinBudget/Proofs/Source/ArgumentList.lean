import PinBudget.Proofs.Source.Scan
import PinBudget.Text.Lines

/-!
Finding an argument list and taking it apart: the bracket that closes an opening one, and the pieces
between the commas. Both hold of any text in the places of the arguments that keeps its own brackets
and quotes closed.
-/
namespace PinBudget.Source

open ScanState

variable {text front inside piece : List Char} {test : Mark → Bool} {marks : List Mark}

theorem cutWhere_of_none (whole : ∀ mark ∈ marks, test mark = false) :
    cutWhere test marks = [marks.map Mark.char] := by
  induction marks with
  | nil => rfl
  | cons mark rest ih =>
    rw [cutWhere, whole mark (List.mem_cons_self ..),
      ih fun other member => whole other (List.mem_cons_of_mem _ member)]
    rfl

theorem cutWhere_append {mark : Mark} (whole : ∀ mark ∈ marks, test mark = false)
    (cut : test mark = true) (rest : List Mark) :
    cutWhere test (marks ++ mark :: rest) = marks.map Mark.char :: cutWhere test rest := by
  induction marks with
  | nil =>
    rw [List.nil_append, cutWhere, cut]
    rfl
  | cons first others ih =>
    rw [List.cons_append, cutWhere, whole first (List.mem_cons_self ..),
      ih fun other member => whole other (List.mem_cons_of_mem _ member)]
    rfl

theorem Mark.Unsplit.separates_eq {mark : Mark} (unsplit : mark.Unsplit 0) :
    mark.separates = false := by
  by_cases comma : mark.char = ',' ∧ mark.quoted = false
  · have deeper := unsplit.joined comma.1 comma.2
    have other : mark.depth ≠ 0 := by omega
    simp [separates, other]
  · by_cases char : mark.char = ','
    · have quoted : mark.quoted = true := by simpa [char] using comma
      simp [separates, quoted]
    · simp [separates, char]

/-- The text ends no argument: each of its commas is quoted or away from the depth of arguments. -/
def Uncut (text : List Char) : Prop :=
  ∀ mark ∈ scan text, mark.separates = false

/-- The text ends no argument and leaves a scan where it found it, so that a comma behind it ends
one. -/
structure Whole (text : List Char) : Prop where
  uncut : Uncut text
  closed : ScanState.run {} text = {}

theorem Steady.whole (steady : Steady Mark.Unsplit text) : Whole text :=
  ⟨fun mark member => ((steady 0).2 mark member).separates_eq, (steady 0).1⟩

theorem whole_blanks (blank : ∀ c ∈ text, Text.isBlank c = true) : Whole text :=
  (steady_blanks blank).whole

theorem Whole.scan_append (whole : Whole text) (rest : List Char) :
    scan (text ++ rest) = scan text ++ scan rest := by
  rw [scan, marks_append, whole.closed]
  rfl

theorem Whole.uncut_append (whole : Whole text) (uncut : Uncut piece) : Uncut (text ++ piece) := by
  intro mark member
  rw [whole.scan_append] at member
  rcases List.mem_append.mp member with early | late
  · exact whole.uncut mark early
  · exact uncut mark late

theorem Whole.append (whole : Whole text) (other : Whole piece) : Whole (text ++ piece) := by
  refine ⟨whole.uncut_append other.uncut, ?_⟩
  rw [run_append, whole.closed, other.closed]

theorem Whole.scan_comma (whole : Whole piece) (rest : List Char) :
    scan (piece ++ ',' :: rest) = scan piece ++ ⟨',', 0, false⟩ :: scan rest :=
  whole.scan_append (',' :: rest)

/-- A text without a separating comma is one argument, or none if there is nothing to see. -/
theorem Uncut.splitArguments_eq (uncut : Uncut piece) :
    splitArguments piece = [Text.trim piece].filter fun part => !part.isEmpty := by
  rw [splitArguments, cutWhere_of_none uncut, scan, map_char_marks]
  rfl

/-- The comma behind a whole text separates its arguments from the others. -/
theorem Whole.splitArguments_comma (whole : Whole piece) (rest : List Char) :
    splitArguments (piece ++ ',' :: rest) = splitArguments piece ++ splitArguments rest := by
  rw [whole.uncut.splitArguments_eq, splitArguments, whole.scan_comma,
    cutWhere_append whole.uncut rfl, scan, map_char_marks, List.map_cons, ← List.singleton_append,
    List.filter_append]
  rfl

theorem Uncut.splitArguments_single (uncut : Uncut piece) (shown : Text.trim piece ≠ []) :
    splitArguments piece = [Text.trim piece] := by
  rw [uncut.splitArguments_eq, List.filter_cons_of_pos (by simp [shown]), List.filter_nil]

theorem Uncut.splitArguments_empty (uncut : Uncut piece) (hidden : Text.trim piece = []) :
    splitArguments piece = [] := by
  rw [uncut.splitArguments_eq, hidden]
  rfl

theorem splitArguments_blank (blank : ∀ c ∈ piece, Text.isBlank c = true) :
    splitArguments piece = [] := by
  have nothing : Text.trim (piece ++ [] ++ []) = [] := Text.tidy_nil.trim_eq blank nofun
  rw [List.append_nil, List.append_nil] at nothing
  exact (whole_blanks blank).uncut.splitArguments_empty nothing

/-- A text that can stand as one argument: it keeps its brackets and quotes closed, ends no argument
of its own, and begins and ends with a character that is shown. -/
structure Piece (text : List Char) : Prop where
  unsplit : Steady Mark.Unsplit text
  tidy : Text.Tidy text
  unbroken : ∀ c ∈ text, Text.isLineBreak c = false
  shown : text ≠ []

/-- A character that neither quotes nor brackets, separates nothing and is shown. -/
def isSolid (c : Char) : Bool :=
  isPlain c && c != '#' && c != '.' && c != ',' && !Text.isBlank c && !Text.isLineBreak c

theorem piece_of_solid (solid : ∀ c ∈ text, isSolid c = true) (shown : text ≠ []) : Piece text := by
  simp only [isSolid, Bool.and_eq_true, bne_iff_ne, Bool.not_eq_true'] at solid
  refine ⟨.ofPlain ?_ ?_, ⟨?_, ?_⟩, ?_, shown⟩
  · intro c member
    exact (solid c member).1.1.1.1.1
  · intro c member
    obtain ⟨⟨⟨⟨⟨_, hash⟩, point⟩, comma⟩, _⟩, _⟩ := solid c member
    exact Mark.unsplit_plain ⟨hash, point⟩ comma
  · intro c found
    exact (solid c (List.mem_of_head? found)).1.2
  · intro c found
    exact (solid c (List.mem_of_getLast? found)).1.2
  · intro c member
    exact (solid c member).2

theorem Piece.steady (piece : Piece text) : Steady Mark.Inside text :=
  piece.unsplit.imp fun _ _ => (·.toInside)

theorem Piece.trim_eq (piece : Piece text) : Text.trim text = text :=
  piece.tidy.trim_self

theorem Piece.splitArguments_comma {before : List Char} (piece : Piece text)
    (blank : ∀ c ∈ before, Text.isBlank c = true) (rest : List Char) :
    splitArguments (before ++ (text ++ ',' :: rest)) = text :: splitArguments rest := by
  have whole := (whole_blanks blank).append piece.unsplit.whole
  have trimmed : Text.trim (before ++ text) = text := by
    rw [Text.trim_blanks_append blank, piece.trim_eq]
  have single := whole.uncut.splitArguments_single (by rw [trimmed]; exact piece.shown)
  rw [← List.append_assoc, whole.splitArguments_comma, single, trimmed]
  rfl

theorem Piece.splitArguments_last {before behind : List Char} (piece : Piece text)
    (blankBefore : ∀ c ∈ before, Text.isBlank c = true)
    (blankBehind : ∀ c ∈ behind, Text.isBlank c = true) :
    splitArguments (before ++ (text ++ behind)) = [text] := by
  have trimmed := piece.tidy.trim_eq blankBefore blankBehind
  rw [List.append_assoc] at trimmed
  have whole := (whole_blanks blankBefore).append
    (piece.unsplit.whole.append (whole_blanks blankBehind))
  rw [whole.uncut.splitArguments_single (by rw [trimmed]; exact piece.shown), trimmed]

/-- Pieces that are joined by commas and blanks are the arguments of the joined text. -/
theorem splitArguments_intercalate {pieces : List (List Char)} {before blanks : List Char}
    (closed : ∀ piece ∈ pieces, Piece piece) (spaced : ∀ c ∈ blanks, Text.isBlank c = true)
    (blank : ∀ c ∈ before, Text.isBlank c = true) :
    splitArguments (before ++ (',' :: blanks).intercalate pieces) = pieces := by
  induction pieces generalizing before with
  | nil =>
    rw [List.intercalate_nil, List.append_nil]
    exact splitArguments_blank blank
  | cons piece rest ih =>
    have own := closed piece (List.mem_cons_self ..)
    have others : ∀ other ∈ rest, Piece other :=
      fun other member => closed other (List.mem_cons_of_mem _ member)
    cases rest with
    | nil =>
      have last := own.splitArguments_last blank (List.forall_mem_nil _)
      rw [List.append_nil] at last
      rw [List.intercalate_singleton]
      exact last
    | cons next rest =>
      have first := own.splitArguments_comma blank
        (blanks ++ (',' :: blanks).intercalate (next :: rest))
      rw [ih others spaced] at first
      rw [List.intercalate_cons_cons, List.append_assoc]
      exact first

/-- Joined pieces keep their brackets and quotes closed, on one line. -/
theorem steady_intercalate {pieces : List (List Char)} {separator : List Char}
    (closed : ∀ piece ∈ pieces, Piece piece) (steady : Steady Mark.Inside separator)
    (unbroken : ∀ c ∈ separator, Text.isLineBreak c = false) :
    Steady Mark.Inside (separator.intercalate pieces) ∧
      ∀ c ∈ separator.intercalate pieces, Text.isLineBreak c = false := by
  induction pieces with
  | nil => exact ⟨.nil, nofun⟩
  | cons piece rest ih =>
    have own := closed piece (List.mem_cons_self ..)
    have others : ∀ other ∈ rest, Piece other :=
      fun other member => closed other (List.mem_cons_of_mem _ member)
    cases rest with
    | nil =>
      rw [List.intercalate_singleton]
      exact ⟨own.steady, own.unbroken⟩
    | cons next rest =>
      obtain ⟨further, together⟩ := ih others
      rw [List.intercalate_cons_cons]
      refine ⟨(own.steady.append steady).append further, ?_⟩
      simp only [List.mem_append]
      rintro c ((early | middle) | late)
      · exact own.unbroken c early
      · exact unbroken c middle
      · exact together c late

/-- The bracket that closes an opening one is the first behind a text that keeps its own brackets
closed. -/
theorem findClosing?_eq {depth : Int} (reached : ScanState.run {} front = level depth)
    (steady : Steady Mark.Inside inside) :
    findClosing? (front ++ '(' :: (inside ++ [')'])) front.length =
      some (front.length + 1 + inside.length) := by
  have closed : (level (depth + 1)).mark ')' = ⟨')', depth, false⟩ := by
    rw [mark, level_step_closing (by decide), Int.add_sub_cancel]
    rfl
  obtain ⟨returned, marked⟩ := steady (depth + 1)
  have marks : scan (front ++ '(' :: (inside ++ [')'])) =
      scan front ++ ⟨'(', depth + 1, false⟩ ::
        ((level (depth + 1)).marks inside ++ [⟨')', depth, false⟩]) := by
    rw [scan, marks_append, reached, ScanState.marks, ← closed]
    have opened : (level depth).step '(' = level (depth + 1) := rfl
    rw [opened, marks_append, returned]
    rfl
  have opening : (scan (front ++ '(' :: (inside ++ [')'])))[front.length]? =
      some ⟨'(', depth + 1, false⟩ := by
    rw [marks, List.getElem?_append_right (by simp [length_scan]), length_scan]
    simp
  have behind : (scan (front ++ '(' :: (inside ++ [')']))).drop (front.length + 1) =
      (level (depth + 1)).marks inside ++ [⟨')', depth, false⟩] := by
    rw [marks, ← length_scan front, List.drop_append]
    simp
  have within : ((level (depth + 1)).marks inside).findIdx? (fun mark =>
      !mark.quoted && isClosing mark.char && mark.depth == depth + 1 - 1) = none := by
    rw [List.findIdx?_eq_none_iff]
    intro mark member
    have deep := (marked mark member).deep
    have other : (mark.depth == depth + 1 - 1) = false := beq_false_of_ne (by omega)
    rw [other, Bool.and_false]
  rw [findClosing?]
  simp only [opening, behind, List.findIdx?_append, within, ScanState.length_marks]
  simp [isClosing]
  omega

end PinBudget.Source
