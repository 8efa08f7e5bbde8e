import PinBudget.Proofs.Dict
import PinBudget.Proofs.Source.Constant
import PinBudget.Source.Argument

/-!
Arguments as source text: constants on their own and constants behind a name. Reading the texts one
after another gives the values in their order, and the names with their values.
-/
namespace PinBudget.Source

variable {c : Char} {text rest : List Char}

theorem arrowArgument?_cons (uncoloned : c ≠ ':') (rest : List Char) :
    arrowArgument? (c :: rest) =
      match Text.name? (c :: rest) with
      | none => none
      | some (name, rest) =>
        (after? ['=', '>'] (Text.trimLeft rest)).map fun right => (name, Text.trimLeft right) := by
  unfold arrowArgument?
  split
  · rename_i same
    exact absurd (List.cons.inj same).1 uncoloned
  · rfl

theorem namedArgument?_of_head (other : Text.isNameStart c = false) (uncoloned : c ≠ ':') :
    namedArgument? (c :: rest) = none := by
  have unnamed : Text.name? (c :: rest) = none := by simp [Text.name?, other]
  rw [namedArgument?, arrowArgument?_cons uncoloned, colonArgument?, unnamed]
  rfl

theorem isNameStart_of_isDigit (digit : c.isDigit = true) : Text.isNameStart c = false := by
  have bounds : 48 ≤ c.toNat ∧ c.toNat ≤ 57 := Char.isDigit_iff_toNat.mp digit
  rw [Bool.eq_false_iff]
  intro start
  rcases (Bool.or_eq_true _ _).mp start with letter | underscore
  · have apart := Text.toNat_of_isAlpha letter
    omega
  · rw [beq_iff_eq.mp underscore] at digit
    cases digit

theorem namedArgument?_digits (digits : ∀ c ∈ text, c.isDigit = true) (shown : text ≠ []) :
    namedArgument? text = none := by
  obtain ⟨c, rest, rfl⟩ := List.exists_cons_of_ne_nil shown
  have first := digits c (List.mem_cons_self ..)
  refine namedArgument?_of_head (isNameStart_of_isDigit first) ?_
  rintro rfl
  cases first

theorem namedArgument?_numeral (value : Int) : namedArgument? (numeral value) = none := by
  unfold numeral
  split
  · exact namedArgument?_of_head (by decide) (by decide)
  · exact namedArgument?_digits isDigit_of_mem_digitsOf Nat.toDigits_ne_nil

theorem namedArgument?_written (spaces : Spaces) (constant : Constant) :
    namedArgument? (constant.written spaces) = none := by
  cases constant with
  | nil => rfl
  | bool value => cases value <;> rfl
  | int value short => exact namedArgument?_numeral value
  | text content plain => exact namedArgument?_of_head (by decide) (by decide)
  | list items => exact namedArgument?_of_head (by decide) (by decide)

def namedText (key : Identifier) (text : List Char) : List Char :=
  key.text ++ ':' :: ' ' :: text

theorem namedArgument?_namedText (key : Identifier) (piece : Piece text) :
    namedArgument? (namedText key text) = some (key.text, text) := by
  have named : Text.name? (namedText key text) = some (key.text, ':' :: ' ' :: text) :=
    key.name?_append rfl
  have arrowless : arrowArgument? (namedText key text) = none := by
    rw [namedText, Identifier.text, List.cons_append,
      arrowArgument?_cons (key.first_ne (by decide)), ← List.cons_append, ← Identifier.text,
      ← namedText, named]
    rfl
  have trimmed : Text.trimLeft (' ' :: text) = text := by
    have visible := piece.tidy.trimLeft_append piece.shown []
    rw [List.append_nil] at visible
    rw [← List.singleton_append, Text.trimLeft_blanks (List.forall_mem_singleton.mpr (by decide)),
      visible]
  rw [namedArgument?, arrowless, colonArgument?, named]
  simp [trimmed]

theorem piece_namedText (key : Identifier) (piece : Piece text) : Piece (namedText key text) := by
  have solid : ∀ c ∈ key.text ++ [':'], isSolid c = true := by
    simp only [List.mem_append, List.mem_singleton]
    rintro c (word | rfl)
    · exact isSolid_of_isWord (key.isWord_of_mem c word)
    · decide
  have front := piece_of_solid solid (by simp)
  have space : ∀ c ∈ [' '], Text.isBlank c = true := List.forall_mem_singleton.mpr (by decide)
  have parted : namedText key text = (key.text ++ [':']) ++ [' '] ++ text := by simp [namedText]
  rw [parted]
  refine ⟨(front.unsplit.append (steady_blanks space)).append piece.unsplit,
    front.tidy.append piece.tidy front.shown piece.shown [' '], ?_, by simp⟩
  simp only [List.mem_append]
  rintro c ((early | middle) | late)
  · exact front.unbroken c (List.mem_append.mpr early)
  · rw [List.mem_singleton.mp middle]
    decide
  · exact piece.unbroken c late

namespace Arguments

variable {bindings : Bindings} {arguments : Arguments} {spaces : Spaces} {constant : Constant}

theorem add_written (room : constant.depth < nestingLimit) :
    arguments.add bindings (constant.written spaces) =
      .ok { arguments with positional := arguments.positional ++ [constant.value] } := by
  rw [add, namedArgument?_written]
  simp only [readValueIn, constant.readWith_written _ spaces room, Except.map]

theorem add_namedText (key : Identifier) (room : constant.depth < nestingLimit) :
    arguments.add bindings (namedText key (constant.written spaces)) =
      .ok { arguments with named := arguments.named.set key.name constant.value } := by
  rw [add, namedArgument?_namedText key (constant.piece_written spaces)]
  simp only [readValueIn, constant.readWith_written _ spaces room, Except.map]
  rfl

theorem foldlM_written (bindings : Bindings) (spaces : Spaces) {constants : List Constant}
    (room : ∀ constant ∈ constants, constant.depth < nestingLimit) (arguments : Arguments) :
    (constants.map (Constant.written spaces)).foldlM (add bindings) arguments =
      .ok { arguments with
        positional := arguments.positional ++ constants.map Constant.value } := by
  induction constants generalizing arguments with
  | nil => simp [pure, Except.pure]
  | cons constant rest ih =>
    rw [List.map_cons, List.foldlM_cons, add_written (room constant (List.mem_cons_self ..))]
    have further := ih (fun other member => room other (List.mem_cons_of_mem _ member))
      { arguments with positional := arguments.positional ++ [constant.value] }
    simpa [bind, Except.bind] using further

/-- New names go behind the names that are there. -/
theorem foldlM_namedText (bindings : Bindings) (spaces : Spaces)
    {entries : List (Identifier × Constant)}
    (room : ∀ entry ∈ entries, entry.2.depth < nestingLimit)
    (distinct : (entries.map fun entry => entry.1.name).Nodup) (arguments : Arguments)
    (fresh : ∀ entry ∈ entries, arguments.named.get? entry.1.name = none) :
    (entries.map fun entry => namedText entry.1 (entry.2.written spaces)).foldlM (add bindings)
        arguments =
      .ok { arguments with
        named := arguments.named ++ entries.map fun entry => (entry.1.name, entry.2.value) } := by
  induction entries generalizing arguments with
  | nil => simp [pure, Except.pure]
  | cons entry rest ih =>
    obtain ⟨key, constant⟩ := entry
    rw [List.map_cons, List.nodup_cons] at distinct
    have unset := fresh (key, constant) (List.mem_cons_self ..)
    have still : ∀ entry ∈ rest,
        Dict.get? (arguments.named ++ [(key.name, constant.value)]) entry.1.name = none := by
      intro entry member
      have other : entry.1.name ≠ key.name := by
        intro same
        exact distinct.1 (List.mem_map.mpr ⟨entry, member, same⟩)
      rw [Dict.get?_concat_of_ne other]
      exact fresh entry (List.mem_cons_of_mem _ member)
    have further := ih (fun other member => room other (List.mem_cons_of_mem _ member)) distinct.2
      { arguments with named := arguments.named ++ [(key.name, constant.value)] } still
    rw [List.map_cons, List.foldlM_cons, add_namedText key (room _ (List.mem_cons_self ..)),
      Dict.set_of_absent unset]
    simpa [bind, Except.bind] using further

end Arguments

end PinBudget.Source
