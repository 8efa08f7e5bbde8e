import PinBudget.Proofs.Outcome
import PinBudget.Proofs.Source.Layout
import PinBudget.Proofs.Source.Name
import PinBudget.Source.Literal

/-!
Constants and how source text writes them. Reading the text of a constant gives its value back,
whatever the names around it stand for.
-/
namespace PinBudget.Source

/-- A constant that source text can write down: integers have at most as many digits as can be read,
and texts are quoted as they are. -/
inductive Constant where
  | nil
  | bool (value : Bool)
  | int (value : Int) (short : value.natAbs < Numeral.bound)
  | text (content : List Char)
      (plain : ∀ c ∈ content, c ≠ '"' ∧ c ≠ '\\' ∧ Text.isLineBreak c = false)
  | list (items : List Constant)

def numeral (value : Int) : List Char :=
  let digits := Nat.toDigits 10 value.natAbs
  if value < 0 then '-' :: digits else digits

namespace Constant

mutual

/-- The constant as source text, with blanks behind the commas of its lists. -/
def written (spaces : Spaces) : Constant → List Char
  | nil => "nil".toList
  | bool true => "true".toList
  | bool false => "false".toList
  | int value _ => numeral value
  | text content _ => '"' :: content ++ ['"']
  | list items => '[' :: (',' :: spaces.text).intercalate (writtenAll spaces items) ++ [']']

def writtenAll (spaces : Spaces) : List Constant → List (List Char)
  | [] => []
  | item :: rest => item.written spaces :: writtenAll spaces rest

end

mutual

def value : Constant → Value
  | nil => .nil
  | bool value => .bool value
  | int value _ => .int value
  | text content _ => .str (String.ofList content)
  | list items => .list (valueAll items)

def valueAll : List Constant → List Value
  | [] => []
  | item :: rest => item.value :: valueAll rest

end

mutual

/-- How many lists stand inside one another. -/
def depth : Constant → Nat
  | nil | bool _ | int .. | text .. => 0
  | list items => depthAll items + 1

def depthAll : List Constant → Nat
  | [] => 0
  | item :: rest => max item.depth (depthAll rest)

end

mutual

/-- What holds of lists as soon as it holds of their items holds of all constants. -/
@[elab_as_elim]
theorem itemInduction {motive : Constant → Prop} (nil : motive .nil)
    (bool : ∀ value, motive (.bool value)) (int : ∀ value short, motive (.int value short))
    (text : ∀ content plain, motive (.text content plain))
    (list : ∀ items, (∀ item ∈ items, motive item) → motive (.list items)) :
    ∀ constant, motive constant
  | .nil => nil
  | .bool value => bool value
  | .int value short => int value short
  | .text content plain => text content plain
  | .list items => list items (itemInductionAll nil bool int text list items)

theorem itemInductionAll {motive : Constant → Prop} (nil : motive .nil)
    (bool : ∀ value, motive (.bool value)) (int : ∀ value short, motive (.int value short))
    (text : ∀ content plain, motive (.text content plain))
    (list : ∀ items, (∀ item ∈ items, motive item) → motive (.list items)) :
    ∀ items : List Constant, ∀ item ∈ items, motive item
  | [] => nofun
  | first :: rest => List.forall_mem_cons.mpr
      ⟨itemInduction nil bool int text list first, itemInductionAll nil bool int text list rest⟩

end

theorem writtenAll_eq (spaces : Spaces) (items : List Constant) :
    writtenAll spaces items = items.map (written spaces) := by
  induction items with
  | nil => rfl
  | cons item rest ih => rw [writtenAll, ih, List.map_cons]

theorem valueAll_eq (items : List Constant) : valueAll items = items.map value := by
  induction items with
  | nil => rfl
  | cons item rest ih => rw [valueAll, ih, List.map_cons]

theorem depth_lt_of_mem {items : List Constant} {item : Constant} (member : item ∈ items) :
    item.depth < (list items).depth := by
  have bounded : item.depth ≤ depthAll items := by
    induction items with
    | nil => cases member
    | cons first rest ih =>
      rw [depthAll]
      rcases List.mem_cons.mp member with rfl | later
      · exact Nat.le_max_left ..
      · exact Nat.le_trans (ih later) (Nat.le_max_right ..)
  rw [depth]
  omega

end Constant

theorem decimalValue?_of_isDigit {c : Char} (digit : c.isDigit = true) :
    Text.decimalValue? c = some (c.toNat - '0'.toNat) := by
  have bounds : 48 ≤ c.toNat ∧ c.toNat ≤ 57 := Char.isDigit_iff_toNat.mp digit
  have zeros : Text.decimalZeros = 48 :: Text.decimalZeros.tail := rfl
  rw [Text.decimalValue?, zeros, List.find?_cons_of_pos (by simpa using bounds)]
  rfl

theorem isDecimal_of_isDigit {c : Char} (digit : c.isDigit = true) : Text.isDecimal c = true := by
  rw [Text.isDecimal, decimalValue?_of_isDigit digit]
  rfl

theorem foldl_decimalValue {digits : List Char} (ascii : ∀ c ∈ digits, c.isDigit = true)
    (start : Nat) :
    digits.foldl (fun number c => 10 * number + (Text.decimalValue? c).getD 0) start =
      Nat.ofDigitChars 10 digits start := by
  induction digits generalizing start with
  | nil => rfl
  | cons c rest ih =>
    rw [List.foldl_cons, decimalValue?_of_isDigit (ascii c (List.mem_cons_self ..)),
      ih fun other member => ascii other (List.mem_cons_of_mem _ member), Nat.ofDigitChars_cons]
    rfl

/-- The digits of a number. -/
abbrev digitsOf (n : Nat) : List Char := Nat.toDigits 10 n

theorem isDigit_of_mem_digitsOf {n : Nat} : ∀ c ∈ digitsOf n, c.isDigit = true :=
  fun _ member => Nat.isDigit_of_mem_toDigits (by decide) (by decide) member

theorem length_digitsOf_le {n limit : Nat} (some_ : 0 < limit) (short : n < Nat.pow 10 limit) :
    (digitsOf n).length ≤ limit :=
  (Nat.length_toDigits_le_iff (by decide) some_).mpr short

theorem ofDigits_digitsOf {n : Nat} (short : n < Numeral.bound) :
    Numeral.ofDigits (digitsOf n) = .ok n := by
  have few : (digitsOf n).length ≤ Fault.digitLimit := by
    unfold Numeral.bound at short
    exact length_digitsOf_le (by decide) short
  have number : Text.decimalNumber (digitsOf n) = n := by
    rw [Text.decimalNumber, foldl_decimalValue isDigit_of_mem_digitsOf,
      Nat.ofDigitChars_ten_toDigits]
  rw [Numeral.ofDigits, if_neg (by omega), number]

theorem spanSign_of_isDigit {text : List Char} (digits : ∀ c ∈ text, c.isDigit = true) :
    Numeral.spanSign text = (false, text) := by
  unfold Numeral.spanSign
  split
  · cases digits _ (List.mem_cons_self ..)
  · cases digits _ (List.mem_cons_self ..)
  · rfl

theorem areDigits_of_isDigit {text : List Char} (digits : ∀ c ∈ text, c.isDigit = true)
    (shown : text ≠ []) : areDigits text = true := by
  have all : text.all Text.isDecimal = true :=
    List.all_eq_true.mpr fun c member => isDecimal_of_isDigit (digits c member)
  simp [areDigits, all, shown]

theorem Literal.ofText_digits {text : List Char} (digits : ∀ c ∈ text, c.isDigit = true)
    (shown : text ≠ []) : Literal.ofText text = .integer false text := by
  simp [Literal.ofText, shapes, integer?, spanSign_of_isDigit digits,
    areDigits_of_isDigit digits shown]

theorem integer?_numeral (value : Int) :
    integer? (numeral value) = some (.integer (value < 0) (digitsOf value.natAbs)) := by
  have signed : Numeral.spanSign (numeral value) = (decide (value < 0), digitsOf value.natAbs) := by
    unfold numeral
    by_cases negative : value < 0
    · simp only [negative, ↓reduceIte]
      rfl
    · simp only [negative, ↓reduceIte]
      exact spanSign_of_isDigit isDigit_of_mem_digitsOf
  simp [integer?, signed, areDigits_of_isDigit isDigit_of_mem_digitsOf Nat.toDigits_ne_nil]

theorem signed_natAbs (value : Int) : Numeral.signed (value < 0) value.natAbs = value := by
  unfold Numeral.signed
  by_cases negative : value < 0
  · rw [decide_eq_true negative, if_pos rfl]
    omega
  · rw [decide_eq_false negative, if_neg Bool.false_ne_true]
    omega

theorem Literal.ofText_numeral (value : Int) :
    Literal.ofText (numeral value) = .integer (value < 0) (digitsOf value.natAbs) := by
  simp [Literal.ofText, shapes, integer?_numeral]

theorem interior_eq (first last : Char) (content : List Char) :
    interior (first :: content ++ [last]) = content := by
  simp [interior]

theorem Literal.ofText_of_opening {c : Char} {rest : List Char}
    (unsigned : Numeral.spanSign (c :: rest) = (false, c :: rest))
    (other : Text.isDecimal c = false) (zero : c ≠ '0') :
    Literal.ofText (c :: rest) =
      (([quoted?, list?, symbol?, keyword?, wholeName?].findSome? fun shape =>
        shape (c :: rest)).getD (.raw (c :: rest))) := by
  have integer : integer? (c :: rest) = none := by simp [integer?, unsigned, areDigits, other]
  have hexadecimal : hexadecimal? (c :: rest) = none := by
    unfold hexadecimal?
    split
    · rename_i same
      exact absurd (List.cons.inj same).1 zero
    · rfl
  have decimal : decimal? (c :: rest) = none := by
    have span : (c :: rest).span Text.isDecimal = ([], c :: rest) := by
      simp [List.span_eq_takeWhile_dropWhile, other]
    simp only [decimal?, unsigned, span, List.isEmpty_nil, Bool.not_true, Bool.false_and]
    split <;> rfl
  simp [Literal.ofText, shapes, integer, hexadecimal, decimal]

theorem Literal.ofText_quoted (content : List Char) :
    Literal.ofText ('"' :: content ++ ['"']) = .quoted content := by
  have quoted : quoted? ('"' :: content ++ ['"']) = some (.quoted content) := by
    have last : ('"' :: content ++ ['"']).getLast? = some '"' := List.getLast?_concat
    rw [quoted?.eq_def]
    split
    · rename_i first second others same
      rw [last, interior_eq, ← (List.cons.inj same).1]
      rfl
    · rename_i long
      cases content with
      | nil => exact (long '"' '"' [] rfl).elim
      | cons c rest => exact (long '"' c (rest ++ ['"']) rfl).elim
  rw [List.cons_append] at *
  rw [Literal.ofText_of_opening rfl (by decide) (by decide)]
  simp [quoted]

theorem Literal.ofText_list (content : List Char) :
    Literal.ofText ('[' :: content ++ [']']) = .list content := by
  have unquoted : quoted? ('[' :: content ++ [']']) = none := by
    rw [quoted?.eq_def]
    cases content with
    | nil => rfl
    | cons c rest => simp [isQuote]
  have list : list? ('[' :: content ++ [']']) = some (.list content) := by
    have last : ('[' :: content ++ [']']).getLast? = some ']' := List.getLast?_concat
    rw [list?, last, interior_eq]
    rfl
  rw [List.cons_append] at *
  rw [Literal.ofText_of_opening rfl (by decide) (by decide)]
  simp [unquoted, list]

theorem isSolid_of_isDigit {c : Char} (digit : c.isDigit = true) : isSolid c = true := by
  have bounds : 48 ≤ c.toNat ∧ c.toNat ≤ 57 := Char.isDigit_iff_toNat.mp digit
  have ascii : c.toNat < 128 := by omega
  exact isSolid_of_isWord (by simp [Text.isWord, ascii, Char.isAlphanum, digit])

theorem piece_of_isDigit {text : List Char} (digits : ∀ c ∈ text, c.isDigit = true)
    (shown : text ≠ []) : Piece text :=
  piece_of_solid (fun c member => isSolid_of_isDigit (digits c member)) shown

/-- Pieces between square brackets, with commas between them, are one piece. -/
theorem piece_list (spaces : Spaces) {texts : List (List Char)}
    (pieces : ∀ piece ∈ texts, Piece piece) :
    Piece ('[' :: (',' :: spaces.text).intercalate texts ++ [']']) := by
  have between : Steady Mark.Inside (',' :: spaces.text) :=
    steady_comma.append ((steady_blanks spaces.blank).imp fun _ _ => (·.toInside))
  have unbroken : ∀ c ∈ ',' :: spaces.text, Text.isLineBreak c = false :=
    List.forall_mem_cons.mpr ⟨by decide, spaces.unbroken⟩
  obtain ⟨steady, together⟩ := steady_intercalate pieces between unbroken
  refine ⟨steady.bracketed, Text.tidy_enclosed (by decide) (by decide) _, ?_, by simp⟩
  simp only [List.mem_append, List.mem_cons, List.not_mem_nil, or_false]
  rintro c ((rfl | inner) | rfl)
  · decide
  · exact together c inner
  · decide

theorem readWith_list (resolve : Resolve) (depth : Nat) (spaces : Spaces)
    {texts : List (List Char)} (pieces : ∀ piece ∈ texts, Piece piece) :
    readWith resolve (depth + 1) ('[' :: (',' :: spaces.text).intercalate texts ++ [']']) =
      (texts.mapM (readWith resolve depth)).map Value.list := by
  have split := splitArguments_intercalate pieces spaces.blank (List.forall_mem_nil _)
  rw [List.nil_append] at split
  rw [readWith, (piece_list spaces pieces).trim_eq, Literal.ofText_list]
  simp only [split]

namespace Constant

theorem solid_numeral (value : Int) : ∀ c ∈ numeral value, isSolid c = true := by
  intro c member
  unfold numeral at member
  split at member
  · rcases List.mem_cons.mp member with rfl | digit
    · decide
    · exact isSolid_of_isDigit (isDigit_of_mem_digitsOf c digit)
  · exact isSolid_of_isDigit (isDigit_of_mem_digitsOf c member)

theorem numeral_ne_nil (value : Int) : numeral value ≠ [] := by
  unfold numeral
  split
  · simp
  · exact Nat.toDigits_ne_nil

theorem piece_written (spaces : Spaces) (constant : Constant) : Piece (constant.written spaces) := by
  induction constant using itemInduction with
  | nil =>
    rw [written]
    exact piece_of_solid (List.all_eq_true.mp (by decide)) (by decide)
  | bool value =>
    cases value <;> rw [written] <;>
      exact piece_of_solid (List.all_eq_true.mp (by decide)) (by decide)
  | int value short => exact piece_of_solid (solid_numeral value) (numeral_ne_nil value)
  | text content plain =>
    refine ⟨steady_quoted fun c member => ⟨(plain c member).1, (plain c member).2.1⟩,
      Text.tidy_enclosed (by decide) (by decide) content, ?_, by simp [written]⟩
    simp only [written, List.mem_append, List.mem_cons, List.not_mem_nil, or_false]
    rintro c ((rfl | inner) | rfl)
    · decide
    · exact (plain c inner).2.2
    · decide
  | list items each =>
    have pieces : ∀ piece ∈ items.map (written spaces), Piece piece := by
      simpa using each
    rw [written, writtenAll_eq]
    exact piece_list spaces pieces

/-- Reading the text of a constant gives its value, as deep as lists may be nested. -/
theorem readWith_written (resolve : Resolve) (spaces : Spaces) (constant : Constant) {depth : Nat}
    (room : constant.depth < depth) :
    readWith resolve depth (constant.written spaces) = .ok constant.value := by
  induction constant using itemInduction generalizing depth with
  | nil =>
    obtain ⟨depth, rfl⟩ := Nat.exists_eq_add_of_lt room
    rfl
  | bool value =>
    obtain ⟨depth, rfl⟩ := Nat.exists_eq_add_of_lt room
    cases value <;> rfl
  | int value short =>
    obtain ⟨depth, rfl⟩ := Nat.exists_eq_add_of_lt room
    rw [readWith, (piece_written spaces _).trim_eq, written, Literal.ofText_numeral]
    simp only [ofDigits_digitsOf short, Except.map, signed_natAbs, Constant.value]
  | text content plain =>
    obtain ⟨depth, rfl⟩ := Nat.exists_eq_add_of_lt room
    rw [readWith, (piece_written spaces _).trim_eq, written, Literal.ofText_quoted]
    rfl
  | list items each =>
    obtain ⟨depth, rfl⟩ := Nat.exists_eq_add_of_lt room
    have pieces : ∀ piece ∈ items.map (written spaces), Piece piece := by
      simpa using fun item _ => piece_written spaces item
    have read : (items.map (written spaces)).mapM (readWith resolve ((list items).depth + depth)) =
        .ok (items.map value) := by
      rw [List.mapM_map]
      refine mapM_eq_map fun item member => each item member ?_
      have deeper := depth_lt_of_mem member
      omega
    rw [written, writtenAll_eq, readWith_list resolve _ spaces pieces, read, Constant.value,
      valueAll_eq]
    rfl

end Constant

end PinBudget.Source
