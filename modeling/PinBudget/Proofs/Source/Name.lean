import Mathlib.Data.List.TakeDrop
import PinBudget.Proofs.Source.ArgumentList
import PinBudget.Source.Pattern
import PinBudget.Text.Digit

/-!
Names and variables as source text. A reader that takes a name off the front of a text takes all of
it and nothing more, as long as what follows does not go on with a word character.
-/
namespace PinBudget.Text

/-- The code points of all blanks. -/
private def blankCodes : List Nat :=
  [9, 10, 11, 12, 13, 28, 29, 30, 31, 32, 0x85, 0xa0, 0x1680, 0x2000, 0x2001, 0x2002, 0x2003,
    0x2004, 0x2005, 0x2006, 0x2007, 0x2008, 0x2009, 0x200a, 0x2028, 0x2029, 0x202f, 0x205f, 0x3000]

private theorem mem_blankCodes {c : Char} (blank : isBlank c = true) : c.toNat ∈ blankCodes := by
  simp only [isBlank, Bool.or_eq_true, Bool.and_eq_true, decide_eq_true_eq, beq_iff_eq] at blank
  simp only [blankCodes, List.mem_cons, List.not_mem_nil, or_false]
  omega

/-- What no blank passes is passed by shown characters only. -/
private theorem isBlank_of_passed {test : Char → Bool} {c : Char} (passed : test c = true)
    (apart : ∀ code ∈ blankCodes, test (Char.ofNat code) = false) : isBlank c = false := by
  rw [Bool.eq_false_iff]
  intro blank
  have other := apart c.toNat (mem_blankCodes blank)
  rw [Char.ofNat_toNat, passed] at other
  cases other

theorem isBlank_of_isWord {c : Char} (word : isWord c = true) : isBlank c = false :=
  isBlank_of_passed word (by decide +kernel)

theorem isWord_of_isBlank {c : Char} (blank : isBlank c = true) : isWord c = false := by
  rw [Bool.eq_false_iff]
  intro word
  rw [isBlank_of_isWord word] at blank
  cases blank

theorem isBlank_of_isDigitSign {c : Char} (sign : isDigitSign c = true) : isBlank c = false :=
  isBlank_of_passed sign (by decide +kernel)

theorem isBlank_of_isLineBreak {c : Char} (broken : isLineBreak c = true) : isBlank c = true := by
  simp only [isLineBreak, Bool.or_eq_true, Bool.and_eq_true, decide_eq_true_eq, beq_iff_eq]
    at broken
  simp only [isBlank, Bool.or_eq_true, Bool.and_eq_true, decide_eq_true_eq, beq_iff_eq]
  omega

theorem toNat_of_isAlpha {c : Char} (letter : c.isAlpha = true) :
    (65 ≤ c.toNat ∧ c.toNat ≤ 90) ∨ (97 ≤ c.toNat ∧ c.toNat ≤ 122) := by
  rcases (Bool.or_eq_true _ _).mp letter with upper | lower
  · exact .inl (of_decide_eq_true upper)
  · obtain ⟨low, high⟩ := (Bool.and_eq_true _ _).mp lower
    exact .inr ⟨of_decide_eq_true low, of_decide_eq_true high⟩

theorem isWord_of_isNameStart {c : Char} (start : isNameStart c = true) : isWord c = true := by
  rcases (Bool.or_eq_true _ _).mp start with letter | underscore
  · have bounds := toNat_of_isAlpha letter
    have ascii : c.toNat < 128 := by omega
    simp [isWord, ascii, Char.isAlphanum, letter]
  · rw [beq_iff_eq.mp underscore]
    rfl

section Words

variable {word rest : List Char} {before : Option Char}

/-- A word is taken off the front of a text up to where something else follows it. -/
theorem takeWhile_word (inside : ∀ c ∈ word, isWord c = true)
    (ends : rest.head?.any isWord = false) : (word ++ rest).takeWhile isWord = word := by
  rw [List.takeWhile_append_of_pos inside]
  cases rest with
  | nil => rw [List.takeWhile_nil, List.append_nil]
  | cons c others =>
    have stops : isWord c = false := by simpa using ends
    rw [List.takeWhile_cons_of_neg (by simp [stops]), List.append_nil]

theorem dropWhile_word (inside : ∀ c ∈ word, isWord c = true)
    (ends : rest.head?.any isWord = false) : (word ++ rest).dropWhile isWord = rest := by
  rw [List.dropWhile_append_of_pos inside]
  cases rest with
  | nil => rfl
  | cons c others =>
    have stops : isWord c = false := by simpa using ends
    rw [List.dropWhile_cons_of_neg (by simp [stops])]

theorem head?_dropWhile_isWord (text : List Char) :
    (text.dropWhile isWord).head?.any isWord = false := by
  have stops := List.head?_dropWhile_not isWord text
  cases first : (text.dropWhile isWord).head? with
  | none => rfl
  | some c =>
    rw [first] at stops
    simpa using stops

theorem spanWord_eq_iff {text : List Char} :
    spanWord text = (word, rest) ↔
      (∀ c ∈ word, isWord c = true) ∧ rest.head?.any isWord = false ∧ text = word ++ rest := by
  rw [spanWord, List.span_eq_takeWhile_dropWhile, Prod.mk.injEq]
  constructor
  · rintro ⟨rfl, rfl⟩
    exact ⟨List.all_eq_true.mp List.all_takeWhile, head?_dropWhile_isWord text,
      List.takeWhile_append_dropWhile.symm⟩
  · rintro ⟨inside, ends, rfl⟩
    exact ⟨takeWhile_word inside ends, dropWhile_word inside ends⟩

theorem atWordEdge_word (shown : word ≠ []) (inside : ∀ c ∈ word, isWord c = true) :
    atWordEdge before (word ++ rest) = true ↔ before.any isWord = false := by
  obtain ⟨c, others, rfl⟩ := List.exists_cons_of_ne_nil shown
  have first := inside c (List.mem_cons_self ..)
  simp [atWordEdge, first]

end Words

end PinBudget.Text

namespace PinBudget.Source

theorem isSolid_of_isWord {c : Char} (word : Text.isWord c = true) : isSolid c = true := by
  have shown := Text.isBlank_of_isWord word
  have unbroken : Text.isLineBreak c = false := by
    rw [Bool.eq_false_iff]
    intro broken
    rw [Text.isBlank_of_isLineBreak broken] at shown
    cases shown
  have other (x : Char) (apart : Text.isWord x = false) : (c == x) = false := by
    rw [beq_eq_false_iff_ne]
    rintro rfl
    rw [word] at apart
    cases apart
  simp [isSolid, isPlain, isQuote, isOpening, isClosing, bne, shown, unbroken,
    other _ (show Text.isWord '"' = false by decide),
    other _ (show Text.isWord '\'' = false by decide),
    other _ (show Text.isWord '(' = false by decide),
    other _ (show Text.isWord '[' = false by decide),
    other _ (show Text.isWord '\x7b' = false by decide),
    other _ (show Text.isWord ')' = false by decide),
    other _ (show Text.isWord ']' = false by decide),
    other _ (show Text.isWord '\x7d' = false by decide),
    other _ (show Text.isWord '#' = false by decide),
    other _ (show Text.isWord '.' = false by decide),
    other _ (show Text.isWord ',' = false by decide)]

/-- A variable is made of sigils and a word. -/
theorem exists_of_behindVariable? {text rest : List Char}
    (behind : behindVariable? text = some rest) :
    ∃ sigils word : List Char, text = sigils ++ (word ++ rest) ∧
      (∀ c ∈ sigils, Text.isWord c = false) ∧ word ≠ [] ∧
      (∀ c ∈ word, Text.isWord c = true) ∧ rest.head?.any Text.isWord = false := by
  have sigil : Text.isWord '@' = false := by decide
  have sigils : text = (splitSigils text).1 ++ (splitSigils text).2 ∧
      ∀ c ∈ (splitSigils text).1, Text.isWord c = false := by
    unfold splitSigils
    split
    · exact ⟨rfl, List.forall_mem_cons.mpr ⟨sigil, List.forall_mem_singleton.mpr sigil⟩⟩
    · exact ⟨rfl, List.forall_mem_singleton.mpr sigil⟩
    · exact ⟨rfl, nofun⟩
  unfold behindVariable? at behind
  split at behind
  · cases behind
  · rename_i c others same
    obtain ⟨start, behind⟩ := Option.ite_none_right_eq_some.mp behind
    cases behind
    refine ⟨(splitSigils text).1, c :: others.takeWhile Text.isWord, ?_, sigils.2,
      List.cons_ne_nil _ _, ?_, Text.head?_dropWhile_isWord others⟩
    · rw [List.cons_append, List.takeWhile_append_dropWhile, ← same]
      exact sigils.1
    · exact List.forall_mem_cons.mpr ⟨Text.isWord_of_isNameStart start,
        List.all_eq_true.mp List.all_takeWhile⟩

/-- A character of code that stands outside quotes, brackets and comments, on one line. -/
def isInline (c : Char) : Bool :=
  isPlain c && c != '#' && !Text.isLineBreak c

theorem isInline_iff {c : Char} :
    isInline c = true ↔ isPlain c = true ∧ c ≠ '#' ∧ Text.isLineBreak c = false := by
  simp [isInline, and_assoc]

theorem isInline_of_isWord {c : Char} (word : Text.isWord c = true) : isInline c = true := by
  have solid := isSolid_of_isWord word
  simp only [isSolid, Bool.and_eq_true, bne_iff_ne, Bool.not_eq_true'] at solid
  exact isInline_iff.mpr ⟨solid.1.1.1.1.1, solid.1.1.1.1.2, solid.2⟩

/-- A name: a letter or an underscore, and word characters behind it. -/
structure Identifier where
  first : Char
  rest : List Char
  start : Text.isNameStart first = true
  word : ∀ c ∈ rest, Text.isWord c = true

namespace Identifier

def text (identifier : Identifier) : List Char :=
  identifier.first :: identifier.rest

def name (identifier : Identifier) : String :=
  String.ofList identifier.text

variable (identifier : Identifier) {rest : List Char}

theorem isWord_of_mem : ∀ c ∈ identifier.text, Text.isWord c = true :=
  List.forall_mem_cons.mpr ⟨Text.isWord_of_isNameStart identifier.start, identifier.word⟩

theorem first_ne {c : Char} (other : Text.isNameStart c = false) : identifier.first ≠ c := by
  rintro rfl
  rw [identifier.start] at other
  cases other

theorem takeWhile_rest (ends : rest.head?.any Text.isWord = false) :
    (identifier.rest ++ rest).takeWhile Text.isWord = identifier.rest :=
  Text.takeWhile_word identifier.word ends

theorem dropWhile_rest (ends : rest.head?.any Text.isWord = false) :
    (identifier.rest ++ rest).dropWhile Text.isWord = rest :=
  Text.dropWhile_word identifier.word ends

theorem name?_append (ends : rest.head?.any Text.isWord = false) :
    Text.name? (identifier.text ++ rest) = some (identifier.text, rest) := by
  rw [text, List.cons_append, Text.name?, if_pos identifier.start, Text.spanWord,
    List.span_eq_takeWhile_dropWhile]
  simp only [identifier.takeWhile_rest ends, identifier.dropWhile_rest ends]

end Identifier

/-- A name with up to two sigils before it. -/
structure Variable where
  sigils : Fin 3
  identifier : Identifier

namespace Variable

def text (variable_ : Variable) : List Char :=
  List.replicate variable_.sigils '@' ++ variable_.identifier.text

def name (variable_ : Variable) : String :=
  String.ofList variable_.text

variable (variable_ : Variable) {rest : List Char}

theorem splitSigils_append (rest : List Char) :
    splitSigils (variable_.text ++ rest) =
      (List.replicate variable_.sigils '@', variable_.identifier.text ++ rest) := by
  have other := variable_.identifier.first_ne (show Text.isNameStart '@' = false by decide)
  obtain ⟨sigils, identifier⟩ := variable_
  match sigils with
  | 0 =>
    rw [splitSigils.eq_def]
    simp [text, Identifier.text, other]
  | 1 =>
    rw [splitSigils.eq_def]
    simp [text, Identifier.text, other]
  | 2 => rfl

theorem behindVariable?_append (ends : rest.head?.any Text.isWord = false) :
    behindVariable? (variable_.text ++ rest) = some rest := by
  rw [behindVariable?, variable_.splitSigils_append, Identifier.text, List.cons_append]
  simp only [variable_.identifier.start, variable_.identifier.dropWhile_rest ends, ↓reduceIte]

theorem variableAt_append (ends : rest.head?.any Text.isWord = false) :
    variableAt (variable_.text ++ rest) = variable_.text := by
  have first : Text.isWord variable_.identifier.first = true :=
    Text.isWord_of_isNameStart variable_.identifier.start
  rw [variableAt, variable_.splitSigils_append, Identifier.text, List.cons_append]
  simp only [List.takeWhile_cons_of_pos first, variable_.identifier.takeWhile_rest ends]
  rfl

theorem solid_text : ∀ c ∈ variable_.text, isSolid c = true := by
  intro c member
  rcases List.mem_append.mp member with sigil | word
  · rw [List.eq_of_mem_replicate sigil]
    decide
  · exact isSolid_of_isWord (variable_.identifier.isWord_of_mem c word)

theorem piece_text : Piece variable_.text :=
  piece_of_solid variable_.solid_text (List.append_ne_nil_of_right_ne_nil _ (List.cons_ne_nil _ _))

end Variable

end PinBudget.Source
