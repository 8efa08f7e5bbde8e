import PinBudget.Proofs.Source.Argument
import PinBudget.Proofs.Source.Reading

/-!
Operands as source text: constants, variables, and lists of both, on their own or behind a name.
What an operand comes to depends on what its variables are bound to; its text can stand as one
argument whatever they are bound to.
-/
namespace PinBudget.Source

theorem isDecimal_of_isNameStart {c : Char} (start : Text.isNameStart c = true) :
    Text.isDecimal c = false := by
  have bounds : 65 ≤ c.toNat ∧ c.toNat < 128 := by
    rcases (Bool.or_eq_true _ _).mp start with letter | underscore
    · have letters := Text.toNat_of_isAlpha letter
      omega
    · rw [beq_iff_eq.mp underscore]
      decide
  have apart : ∀ base ∈ Text.decimalZeros, base + 9 < 65 ∨ 128 ≤ base := by decide
  have none : Text.decimalValue? c = none := by
    rw [Text.decimalValue?, Option.map_eq_none_iff, List.find?_eq_none]
    intro base member
    have other := apart base member
    simp only [Bool.and_eq_true, decide_eq_true_eq, not_and]
    omega
  rw [Text.isDecimal, none]
  rfl

theorem Literal.ofText_of_sigil_or_name {c : Char} {rest : List Char}
    (first : c = '@' ∨ Text.isNameStart c = true) :
    Literal.ofText (c :: rest) =
      (([keyword?, wholeName?].findSome? fun shape => shape (c :: rest)).getD
        (.raw (c :: rest))) := by
  have other (x : Char) (sigil : x ≠ '@') (start : Text.isNameStart x = false) : c ≠ x := by
    rintro rfl
    rcases first with same | named
    · exact sigil same
    · rw [start] at named
      cases named
  have decimal : Text.isDecimal c = false := by
    rcases first with rfl | named
    · decide
    · exact isDecimal_of_isNameStart named
  have unsigned : Numeral.spanSign (c :: rest) = (false, c :: rest) := by
    unfold Numeral.spanSign
    split
    · rename_i same
      exact absurd (List.cons.inj same).1 (other '-' (by decide) (by decide))
    · rename_i same
      exact absurd (List.cons.inj same).1 (other '+' (by decide) (by decide))
    · rfl
  have quoted : quoted? (c :: rest) = none := by
    have plain : isQuote c = false := by
      simp [isQuote, other '"' (by decide) (by decide), other '\'' (by decide) (by decide)]
    cases rest with
    | nil => rfl
    | cons second others => simp [quoted?, plain]
  have list : list? (c :: rest) = none := by
    simp [list?, other '[' (by decide) (by decide)]
  have symbol : symbol? (c :: rest) = none := by
    unfold symbol?
    split
    · rename_i same
      exact absurd (List.cons.inj same).1 (other ':' (by decide) (by decide))
    · rfl
  rw [Literal.ofText_of_opening unsigned decimal (other '0' (by decide) (by decide))]
  simp only [List.findSome?_cons, quoted, list, symbol]

theorem keyword?_eq (text : List Char) :
    keyword? text = none ∨ ∃ value, keyword? text = some (.keyword value) := by
  unfold keyword?
  split
  · exact .inr ⟨_, rfl⟩
  · split
    · exact .inr ⟨_, rfl⟩
    · split
      · exact .inr ⟨_, rfl⟩
      · exact .inl rfl

namespace Variable

variable (name : Variable)

theorem text_eq_cons : ∃ c rest, name.text = c :: rest ∧ (c = '@' ∨ Text.isNameStart c = true) := by
  obtain ⟨sigils, identifier⟩ := name
  match sigils with
  | 0 => exact ⟨_, _, rfl, .inr identifier.start⟩
  | 1 => exact ⟨_, _, rfl, .inl rfl⟩
  | 2 => exact ⟨_, _, rfl, .inl rfl⟩

theorem wholeName?_text : wholeName? name.text = some (.name name.text) := by
  have ends : ([] : List Char).head?.any Text.isWord = false := rfl
  have behind := name.behindVariable?_append ends
  have front := name.variableAt_append ends
  rw [List.append_nil] at behind front
  simp [wholeName?, variableName?, behind, front]

/-- A variable is a name, or one of the words with a value of their own. -/
theorem ofText_text :
    Literal.ofText name.text = .name name.text ∨
      ∃ value, Literal.ofText name.text = .keyword value := by
  obtain ⟨c, rest, same, first⟩ := name.text_eq_cons
  have whole := name.wholeName?_text
  rw [same] at whole ⊢
  rw [Literal.ofText_of_sigil_or_name first]
  simp only [List.findSome?_cons, whole]
  rcases keyword?_eq (c :: rest) with none | ⟨value, own⟩
  · rw [none]
    exact .inl rfl
  · rw [own]
    exact .inr ⟨value, rfl⟩

theorem namedArgument?_text : namedArgument? name.text = none := by
  obtain ⟨sigils, identifier⟩ := name
  have named : Text.name? identifier.text = some (identifier.text, []) := by
    have ends : ([] : List Char).head?.any Text.isWord = false := rfl
    have whole := identifier.name?_append ends
    rwa [List.append_nil] at whole
  match sigils with
  | 0 =>
    have uncoloned : identifier.first ≠ ':' := identifier.first_ne (by decide)
    have arrow := arrowArgument?_cons uncoloned identifier.rest
    rw [← Identifier.text, named] at arrow
    show namedArgument? identifier.text = none
    rw [namedArgument?, arrow, colonArgument?, named]
    rfl
  | 1 => exact namedArgument?_of_head (by decide) (by decide)
  | 2 => exact namedArgument?_of_head (by decide) (by decide)

/-- A variable can be read where what it stands for can be. -/
theorem exists_readWith_text {resolve : Resolve} {room : Nat} {value : Value}
    (resolved : resolve room name.text = .ok value) :
    ∃ value, readWith resolve (room + 1) name.text = .ok value := by
  rw [readWith, name.piece_text.trim_eq]
  rcases name.ofText_text with own | ⟨value, own⟩
  · rw [own]
    exact ⟨_, resolved⟩
  · rw [own]
    exact ⟨value, rfl⟩

end Variable

/-- A character that an operand, or the name before it, can begin with. -/
def opensOperand (c : Char) : Bool :=
  isSolid c || c == '"' || c == '['

theorem opens_of_solid {text : List Char} (solid : ∀ c ∈ text, isSolid c = true)
    (shown : text ≠ []) : ∃ c rest, text = c :: rest ∧ opensOperand c = true := by
  obtain ⟨c, rest, rfl⟩ := List.exists_cons_of_ne_nil shown
  refine ⟨c, rest, rfl, ?_⟩
  simp [opensOperand, solid c (List.mem_cons_self ..)]

theorem Constant.opens_written (spaces : Spaces) (constant : Constant) :
    ∃ c rest, constant.written spaces = c :: rest ∧ opensOperand c = true := by
  cases constant with
  | nil => exact ⟨_, _, rfl, by decide⟩
  | bool value => cases value <;> exact ⟨_, _, rfl, by decide⟩
  | int value short => exact opens_of_solid (solid_numeral value) (numeral_ne_nil value)
  | text content plain => exact ⟨_, _, rfl, by decide⟩
  | list items => exact ⟨_, _, rfl, by decide⟩

/-- What an argument can be given as. -/
inductive Operand where
  | constant (value : Constant)
  | name (name : Variable)
  | list (items : List Operand)

namespace Operand

mutual

/-- The operand as source text, with blanks behind the commas of its lists. -/
def written (spaces : Spaces) : Operand → List Char
  | constant value => value.written spaces
  | name own => own.text
  | list items => '[' :: (',' :: spaces.text).intercalate (writtenAll spaces items) ++ [']']

def writtenAll (spaces : Spaces) : List Operand → List (List Char)
  | [] => []
  | item :: rest => item.written spaces :: writtenAll spaces rest

end

mutual

/-- What holds of lists as soon as it holds of their items holds of all operands. -/
@[elab_as_elim]
theorem itemInduction {motive : Operand → Prop} (constant : ∀ value, motive (.constant value))
    (name : ∀ name, motive (.name name))
    (list : ∀ items, (∀ item ∈ items, motive item) → motive (.list items)) :
    ∀ operand, motive operand
  | .constant value => constant value
  | .name own => name own
  | .list items => list items (itemInductionAll constant name list items)

theorem itemInductionAll {motive : Operand → Prop} (constant : ∀ value, motive (.constant value))
    (name : ∀ name, motive (.name name))
    (list : ∀ items, (∀ item ∈ items, motive item) → motive (.list items)) :
    ∀ items : List Operand, ∀ item ∈ items, motive item
  | [] => nofun
  | first :: rest => List.forall_mem_cons.mpr
      ⟨itemInduction constant name list first, itemInductionAll constant name list rest⟩

end

theorem writtenAll_eq (spaces : Spaces) (items : List Operand) :
    writtenAll spaces items = items.map (written spaces) := by
  induction items with
  | nil => rfl
  | cons item rest ih => rw [writtenAll, ih, List.map_cons]

theorem piece_written (spaces : Spaces) (operand : Operand) : Piece (operand.written spaces) := by
  induction operand using itemInduction with
  | constant value =>
    rw [written]
    exact value.piece_written spaces
  | name name =>
    rw [written]
    exact name.piece_text
  | list items each =>
    rw [written, writtenAll_eq]
    exact piece_list spaces (by simpa using each)

theorem namedArgument?_written (spaces : Spaces) (operand : Operand) :
    namedArgument? (operand.written spaces) = none := by
  cases operand with
  | constant value =>
    rw [written]
    exact Source.namedArgument?_written spaces value
  | name name =>
    rw [written]
    exact name.namedArgument?_text
  | list items =>
    rw [written]
    exact namedArgument?_of_head (by decide) (by decide)

theorem opens_written (spaces : Spaces) (operand : Operand) :
    ∃ c rest, operand.written spaces = c :: rest ∧ opensOperand c = true := by
  cases operand with
  | constant value =>
    rw [written]
    exact value.opens_written spaces
  | name name =>
    rw [written]
    exact opens_of_solid name.solid_text name.piece_text.shown
  | list items =>
    rw [written]
    exact ⟨_, _, rfl, by decide⟩

/-- An operand that can be read under bindings where so many texts may stand inside one another: its
lists are not nested too deeply, and what its variables are bound to can be read as well. -/
inductive Fits (bindings : Bindings) : Nat → Operand → Prop where
  | constant {room : Nat} {value : Constant} (shallow : value.depth < room) :
      Fits bindings room (.constant value)
  | unbound {room : Nat} {name : Variable} (free : bindings.get? name.name = none) :
      Fits bindings (room + 1) (.name name)
  | bound {room : Nat} {name : Variable} {right : String} {value : Value}
      (bound : bindings.get? name.name = some right)
      (read : readWith unresolved room right.toList = .ok value) :
      Fits bindings (room + 1) (.name name)
  | list {room : Nat} {items : List Operand} (each : ∀ item ∈ items, Fits bindings room item) :
      Fits bindings (room + 1) (.list items)

theorem Fits.exists_readWith {bindings : Bindings} {room : Nat} {operand : Operand}
    (fits : Fits bindings room operand) (spaces : Spaces) :
    ∃ value, readWith (resolveIn bindings) room (operand.written spaces) = .ok value := by
  induction fits with
  | constant shallow =>
    rw [written]
    exact ⟨_, Constant.readWith_written _ spaces _ shallow⟩
  | @unbound room name free =>
    have resolved : resolveIn bindings room name.text = .ok (.unresolved name.name) := by
      rw [Variable.name] at free
      simp only [resolveIn, free]
      rfl
    rw [written]
    exact name.exists_readWith_text resolved
  | @bound room name right value bound read =>
    have resolved : resolveIn bindings room name.text = .ok value := by
      rw [Variable.name] at bound
      simp only [resolveIn, bound, read]
    rw [written]
    exact name.exists_readWith_text resolved
  | @list room items each ih =>
    have pieces : ∀ piece ∈ items.map (written spaces), Piece piece := by
      simpa using fun item _ => piece_written spaces item
    rw [written, writtenAll_eq, readWith_list _ room spaces pieces]
    cases read : (items.map (written spaces)).mapM (readWith (resolveIn bindings) room) with
    | ok values => exact ⟨.list values, rfl⟩
    | error fault =>
      obtain ⟨text, member, failed⟩ := exists_error_of_mapM read
      obtain ⟨item, own, rfl⟩ := List.mem_map.mp member
      obtain ⟨value, read⟩ := ih item own
      rw [failed] at read
      cases read

end Operand

/-- An argument: an operand, and the name that it is given under, if any. -/
structure Argument where
  key : Option Identifier
  operand : Operand

namespace Argument

variable (spaces : Spaces) (argument : Argument)

def written : List Char :=
  match argument.key with
  | none => argument.operand.written spaces
  | some key => namedText key (argument.operand.written spaces)

theorem piece_written : Piece (argument.written spaces) := by
  have piece := argument.operand.piece_written spaces
  unfold written
  split
  · exact piece
  · exact piece_namedText _ piece

theorem opens_written :
    ∃ c rest, argument.written spaces = c :: rest ∧ opensOperand c = true := by
  unfold written
  split
  · exact argument.operand.opens_written spaces
  · rename_i key _
    have solid := isSolid_of_isWord (Text.isWord_of_isNameStart key.start)
    exact ⟨key.first, _, rfl, by simp [opensOperand, solid]⟩

theorem valueText_written :
    valueText (argument.written spaces) = argument.operand.written spaces := by
  have piece := argument.operand.piece_written spaces
  rw [valueText, written]
  cases argument.key with
  | none => simp only [argument.operand.namedArgument?_written]
  | some key => simp only [namedArgument?_namedText key piece]

end Argument

end PinBudget.Source
