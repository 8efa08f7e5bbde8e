import PinBudget.Proofs.Source.Joining
import PinBudget.Proofs.Source.Scan
import PinBudget.Proofs.Text.Lines

/-!
Laying out a statement over several lines. Words of code stand on one line or on several, with
blanks, comments and empty lines between them; while a bracket is open, joining the lines gives the
words back on one line, with a blank for every line that was taken.
-/
namespace PinBudget.Source

open ScanState

/-- Blanks on one line. -/
structure Spaces where
  text : List Char
  blank : ∀ c ∈ text, Text.isBlank c = true
  unbroken : ∀ c ∈ text, Text.isLineBreak c = false

/-- What may follow the code of a line: blanks, and a comment. -/
structure LineEnd where
  spaces : Spaces
  comment : Option (List Char)
  unbroken : ∀ text, comment = some text → ∀ c ∈ text, Text.isLineBreak c = false

/-- The end of a line and the indentation of the next one. -/
structure Turn where
  ending : LineEnd
  indent : Spaces

/-- What stands between two words: blanks on the line, or at least one turn to a further line. Lines
that hold no code are turns in a row. -/
inductive Gap where
  | inline (spaces : Spaces)
  | broken (first : Turn) (more : List Turn)

def Spaces.none : Spaces :=
  ⟨[], List.forall_mem_nil _, List.forall_mem_nil _⟩

def Spaces.one : Spaces :=
  ⟨[' '], List.forall_mem_singleton.mpr (by decide), List.forall_mem_singleton.mpr (by decide)⟩

def LineEnd.bare : LineEnd :=
  ⟨.none, none, nofun⟩

def LineEnd.text (ending : LineEnd) : List Char :=
  ending.spaces.text ++ match ending.comment with
    | none => []
    | some comment => '#' :: comment

def Turn.text (turn : Turn) : List Char :=
  turn.ending.text ++ '\n' :: turn.indent.text

namespace Gap

def text : Gap → List Char
  | inline spaces => spaces.text
  | broken first more => (first :: more).flatMap Turn.text

/-- The lines that begin in the gap. -/
def turns : Gap → Nat
  | inline _ => 0
  | broken _ more => more.length + 1

/-- The gap on one line: a blank for every turn. -/
def joined : Gap → List Char
  | inline spaces => spaces.text
  | broken _ more => List.replicate (more.length + 1) ' '

theorem joined_blank (gap : Gap) : ∀ c ∈ gap.joined, Text.isBlank c = true := by
  cases gap with
  | inline spaces => exact spaces.blank
  | broken first more =>
    intro c member
    rw [List.eq_of_mem_replicate member]
    decide

theorem joined_unbroken (gap : Gap) : ∀ c ∈ gap.joined, Text.isLineBreak c = false := by
  cases gap with
  | inline spaces => exact spaces.unbroken
  | broken first more =>
    intro c member
    rw [List.eq_of_mem_replicate member]
    decide

end Gap

/-- A word that can stand anywhere in a layout: code without line breaks that begins and ends with a
character that is shown. -/
structure Word (text : List Char) : Prop where
  code : Code text
  tidy : Text.Tidy text
  unbroken : ∀ c ∈ text, Text.isLineBreak c = false

variable {indent : Spaces} {done current text rest flat : List Char} {turns : Nat}

theorem word_nil : Word [] :=
  ⟨Steady.nil.code, Text.tidy_nil, nofun⟩

theorem Word.append (first : Word current) (second : Word text) (begun : current ≠ [])
    (ended : text ≠ []) (spaces : Spaces) : Word (current ++ spaces.text ++ text) where
  code := (first.code.append (code_blanks spaces.blank)).append second.code
  tidy := first.tidy.append second.tidy begun ended spaces.text
  unbroken := by
    simp only [List.mem_append]
    rintro c ((early | middle) | late)
    · exact first.unbroken c early
    · exact spaces.unbroken c middle
    · exact second.unbroken c late

theorem LineEnd.cleanLine_append (ending : LineEnd) (word : Word text) (indent : Spaces) :
    cleanLine (indent.text ++ text ++ ending.text) = text := by
  unfold LineEnd.text
  split
  · rw [List.append_nil]
    exact cleanLine_eq word.tidy word.code indent.blank ending.spaces.blank
  · exact cleanLine_comment word.tidy word.code indent.blank ending.spaces.blank _

theorem LineEnd.text_unbroken (ending : LineEnd) :
    ∀ c ∈ ending.text, Text.isLineBreak c = false := by
  intro c member
  rcases List.mem_append.mp member with space | remark
  · exact ending.spaces.unbroken c space
  · split at remark
    · cases remark
    · rename_i comment written
      rcases List.mem_cons.mp remark with rfl | inner
      · decide
      · exact ending.unbroken comment written c inner

theorem line_unbroken (indent : Spaces) (word : Word current) (ending : LineEnd) :
    ∀ c ∈ indent.text ++ current ++ ending.text, Text.isLineBreak c = false := by
  simp only [List.mem_append]
  rintro c ((space | code) | remark)
  · exact indent.unbroken c space
  · exact word.unbroken c code
  · exact ending.text_unbroken c remark

/-- Behind the code `done` of earlier lines, the lines of a text whose first line has the code
`current` are joined to one statement, which has `flat` behind the current code. -/
def Joins (indent : Spaces) (done current text flat : List Char) (turns : Nat) : Prop :=
  ∃ line lines, Text.lines (indent.text ++ current ++ text) = line :: lines ∧
    ∀ budget, turns ≤ budget →
      joinLines budget (done ++ cleanLine line) lines = ⟨done ++ current ++ flat, turns, []⟩

/-- Which of the code on a line counts as current makes no difference. -/
theorem joins_append (more : List Char) :
    Joins indent done (current ++ more) text flat turns ↔
      Joins indent done current (more ++ text) (more ++ flat) turns := by
  simp only [Joins, List.append_assoc]

theorem joins_ending (ending : LineEnd) (word : Word current) (shown : current ≠ [])
    (indent : Spaces) (done : List Char) : Joins indent done current ending.text [] 0 := by
  refine ⟨_, [], Text.lines_singleton (line_unbroken indent word ending) ?_, ?_⟩
  · simp [shown]
  · intro budget _
    rw [ending.cleanLine_append word, List.append_nil, joinLines.eq_def]
    cases budget <;> rfl

theorem joins_turn (indent : Spaces) (turn : Turn) (word : Word current)
    (opened : ScanState.run {} (done ++ current) = level 1)
    (next : Joins turn.indent (done ++ current ++ [' ']) [] text flat turns) :
    Joins indent done current (turn.text ++ text) (' ' :: flat) (turns + 1) := by
  obtain ⟨line, lines, divided, joined⟩ := next
  have waiting : 0 < bracketDepth (done ++ current) := by
    rw [bracketDepth, opened]
    decide
  refine ⟨indent.text ++ current ++ turn.ending.text, line :: lines, ?_, ?_⟩
  · rw [← divided, ← Text.lines_cons (line_unbroken indent word turn.ending)]
    simp [Turn.text]
  · intro budget enough
    obtain ⟨budget, rfl⟩ := Nat.exists_eq_add_of_le enough
    have reached := joined (turns + budget) (Nat.le_add_right ..)
    rw [turn.ending.cleanLine_append word, Nat.add_right_comm, joinLines, if_pos waiting]
    simp only [List.append_assoc, List.singleton_append] at reached ⊢
    rw [reached]

theorem run_space (opened : ScanState.run {} text = level 1) :
    ScanState.run {} (text ++ [' ']) = level 1 := by
  rw [run_append, opened]
  rfl

theorem joins_turns (indent : Spaces) (more : List Turn) (opened : ScanState.run {} done = level 1)
    (next : ∀ indent before, ScanState.run {} before = level 1 →
      Joins indent before [] text flat turns) :
    Joins indent done [] (more.flatMap Turn.text ++ text) (List.replicate more.length ' ' ++ flat)
      (turns + more.length) := by
  induction more generalizing indent done with
  | nil => exact next indent done opened
  | cons turn more ih =>
    rw [List.flatMap_cons, List.append_assoc, List.length_cons, List.replicate_succ]
    rw [← List.append_nil done] at opened
    exact joins_turn indent turn word_nil opened (ih turn.indent (run_space opened))

/-- A gap inside an open bracket, and the word behind it. -/
theorem joins_gap (indent : Spaces) (gap : Gap) (first : Word current) (begun : current ≠ [])
    (second : Word text) (ended : text ≠ []) (opened : ScanState.run {} (done ++ current) = level 1)
    (next : ∀ indent before current, Word current → current ≠ [] →
      ScanState.run {} (before ++ current) = (level 1).run text →
        Joins indent before current rest flat turns) :
    Joins indent done current (gap.text ++ (text ++ rest)) (gap.joined ++ (text ++ flat))
      (turns + gap.turns) := by
  cases gap with
  | inline spaces =>
    have longer := first.append second begun ended spaces
    have reached : ScanState.run {} (done ++ (current ++ spaces.text ++ text)) =
        (level 1).run text := by
      rw [List.append_assoc, ← List.append_assoc, run_append, opened, run_append,
        ((steady_blanks spaces.blank) 1).1]
    have joined := next indent done _ longer (by simp [begun]) reached
    rwa [joins_append, joins_append] at joined
  | broken turn more =>
    have after : ∀ indent before, ScanState.run {} before = level 1 →
        Joins indent before [] (text ++ rest) (text ++ flat) turns := by
      intro indent before reached
      have behind : ScanState.run {} (before ++ text) = (level 1).run text := by
        rw [run_append, reached]
      exact (joins_append text).mp (next indent before text second ended behind)
    have further := joins_turns turn.indent more (run_space opened) after
    have joined := joins_turn indent turn first opened further
    rw [← List.append_assoc] at joined
    exact joined

/-- Words, each with the gap before it, as they are laid out. -/
def spread (words : List (Gap × List Char)) : List Char :=
  words.flatMap fun (gap, word) => gap.text ++ word

/-- The words on one line. -/
def unspread (words : List (Gap × List Char)) : List Char :=
  words.flatMap fun (gap, word) => gap.joined ++ word

/-- The lines that begin between the words. -/
def turnsIn : List (Gap × List Char) → Nat
  | [] => 0
  | (gap, _) :: words => gap.turns + turnsIn words

theorem turnsIn_inline {words : List (Gap × List Char)}
    (inline : ∀ word ∈ words, word.1.turns = 0) : turnsIn words = 0 := by
  induction words with
  | nil => rfl
  | cons word rest ih =>
    rw [turnsIn, inline word (List.mem_cons_self ..),
      ih fun other member => inline other (List.mem_cons_of_mem _ member)]

/-- A word that leaves the brackets around it open. -/
structure InnerWord (text : List Char) : Prop where
  steady : Steady Mark.Inside text
  tidy : Text.Tidy text
  unbroken : ∀ c ∈ text, Text.isLineBreak c = false
  shown : text ≠ []

theorem InnerWord.word (inner : InnerWord text) : Word text :=
  ⟨inner.steady.code, inner.tidy, inner.unbroken⟩

theorem word_unspread (first : Word current) (begun : current ≠ [])
    {words : List (Gap × List Char)} (inner : ∀ word ∈ words, InnerWord word.2) :
    Word (current ++ unspread words) := by
  induction words generalizing current with
  | nil => simpa [unspread] using first
  | cons word rest ih =>
    obtain ⟨gap, text⟩ := word
    have own := inner _ (List.mem_cons_self ..)
    have longer := first.append own.word begun own.shown
      ⟨gap.joined, gap.joined_blank, gap.joined_unbroken⟩
    have further := ih longer (by simp [begun])
      fun other member => inner other (List.mem_cons_of_mem _ member)
    simpa [unspread] using further

theorem word_opening : Word ['('] :=
  ⟨code_opening, Text.tidy_singleton (by decide), List.forall_mem_singleton.mpr (by decide)⟩

theorem word_closing : Word [')'] :=
  ⟨code_closing, Text.tidy_singleton (by decide), List.forall_mem_singleton.mpr (by decide)⟩

/-- The words behind an opening bracket, up to the bracket that closes it. -/
theorem joins_words (indent : Spaces) (done : List Char) (first : Word current)
    (begun : current ≠ []) (opened : ScanState.run {} (done ++ current) = level 1)
    (words : List (Gap × List Char)) (inner : ∀ word ∈ words, InnerWord word.2) (closing : Gap)
    (ending : LineEnd) :
    Joins indent done current (spread words ++ (closing.text ++ ([')'] ++ ending.text)))
      (unspread words ++ (closing.joined ++ [')'])) (turnsIn words + closing.turns) := by
  induction words generalizing indent done current with
  | nil =>
    refine joins_gap indent closing first begun word_closing (by simp) opened ?_
    intro indent before current word shown _
    exact joins_ending ending word shown indent before
  | cons word words ih =>
    obtain ⟨gap, text⟩ := word
    have own := inner _ (List.mem_cons_self ..)
    have others : ∀ other ∈ words, InnerWord other.2 :=
      fun other member => inner other (List.mem_cons_of_mem _ member)
    have joined := joins_gap indent gap first begun own.word own.shown opened
      fun indent before current word shown reached =>
        ih indent before word shown (reached.trans (own.steady 1).1) others
    have counted : turnsIn ((gap, text) :: words) + closing.turns =
        turnsIn words + closing.turns + gap.turns := by
      rw [turnsIn]
      omega
    rw [counted]
    simpa only [spread, unspread, List.flatMap_cons, List.append_assoc] using joined

/-- Lines that are joined are one statement, if they are not too many. -/
theorem statements_of_joins (begun : current ≠ []) (few : turns ≤ continuationLimit)
    (joins : Joins indent [] current text flat turns) :
    statements (indent.text ++ current ++ text) = [⟨1, current ++ flat⟩] := by
  obtain ⟨line, lines, divided, joined⟩ := joins
  have all := joined continuationLimit few
  rw [List.nil_append, List.nil_append] at all
  have code : (cleanLine line).isEmpty = false := by
    rw [Bool.eq_false_iff]
    intro empty
    rw [List.isEmpty_iff.mp empty, joinLines_of_closed (by decide)] at all
    simp [begun] at all
  rw [statements, divided, statementsFrom_code code, all, statementsFrom]

/-- Words behind an opening bracket, up to the bracket that closes it, make one statement, however
they are laid out on a bounded number of lines. -/
theorem statements_spread (lead : Spaces) (first : Word current) (begun : current ≠ [])
    (opened : ScanState.run {} current = level 1) (words : List (Gap × List Char))
    (inner : ∀ word ∈ words, InnerWord word.2) (closing : Gap) (ending : LineEnd)
    (few : turnsIn words + closing.turns ≤ continuationLimit) :
    statements (lead.text ++ current ++ (spread words ++ (closing.text ++ ([')'] ++ ending.text)))) =
      [⟨1, current ++ (unspread words ++ (closing.joined ++ [')']))⟩] :=
  statements_of_joins begun few (joins_words lead [] first begun opened words inner closing ending)

theorem statements_word (lead : Spaces) (word : Word current) (shown : current ≠ [])
    (ending : LineEnd) : statements (lead.text ++ current ++ ending.text) = [⟨1, current⟩] := by
  have single := statements_of_joins shown (Nat.zero_le _) (joins_ending ending word shown lead [])
  rwa [List.append_nil] at single

end PinBudget.Source
