import PinBudget.Proofs.Source.Argument
import PinBudget.Proofs.Source.Reading
import PinBudget.Proofs.Usage.Call

/-!
Which sources can be scanned to their end. A scan asks for the values of the argument texts of its
constructions, each under the assignments of the statements before; it ends well exactly if all of
them can be read, and nothing else in a source can stop it.
-/
namespace PinBudget

open Source

variable {extraction : Extraction} {statement : Statement} {statements : List Statement}
variable {bindings : Bindings} {text : List Char} {fault : Fault}

namespace Source

/-- The bindings behind a statement. -/
def Statement.bind (bindings : Bindings) (statement : Statement) : Bindings :=
  match assignment? statement.text with
  | none => bindings
  | some (target, right) => bindings.set (String.ofList target) (String.ofList (Text.trim right))

/-- The values that a statement asks for: those of the arguments of its constructions. -/
def Statement.Asks (statement : Statement) (text : List Char) : Prop :=
  ∃ found ∈ occurrences Usage.construction (mask statement.text), ∃ argumentText,
    Usage.argumentText? statement.text (mask statement.text) found.stop = some argumentText ∧
      ∃ part ∈ splitArguments argumentText, valueText part = text

/-- Statements that are scanned under bindings ask for the value of a text under further ones. -/
inductive Asks : Bindings → List Statement → Bindings → List Char → Prop where
  | here {bindings : Bindings} {statement : Statement} {rest : List Statement} {text : List Char}
      (asks : statement.Asks text) : Asks bindings (statement :: rest) bindings text
  | later {bindings inner : Bindings} {statement : Statement} {rest : List Statement}
      {text : List Char} (asks : Asks (statement.bind bindings) rest inner text) :
      Asks bindings (statement :: rest) inner text

end Source

namespace Extraction

section

variable {masked : List Char} {bound : List String}
variable {found : List (Found (Option (List Char) × Kind))}

theorem bindings_addConstructions :
    (extraction.addConstructions statement masked bound found).1.extraction.bindings =
      extraction.bindings := by
  induction found generalizing extraction bound with
  | nil => rfl
  | cons first rest ih =>
    cases closed : Usage.argumentText? statement.text masked first.stop with
    | none => rw [addConstructions_unclosed closed, ih]
    | some text =>
      cases read : Arguments.read extraction.bindings text with
      | error fault => rw [addConstructions_fault closed read]
      | ok arguments =>
        rw [addConstructions_read closed read, ih]
        rfl

theorem exists_error_of_addConstructions
    (met : (extraction.addConstructions statement masked bound found).1.fault = some fault) :
    ∃ construction ∈ found, ∃ text,
      Usage.argumentText? statement.text masked construction.stop = some text ∧
        Arguments.read extraction.bindings text = .error fault := by
  induction found generalizing extraction bound with
  | nil => cases met
  | cons first rest ih =>
    cases closed : Usage.argumentText? statement.text masked first.stop with
    | none =>
      rw [addConstructions_unclosed closed] at met
      obtain ⟨construction, member, own⟩ := ih met
      exact ⟨construction, List.mem_cons_of_mem _ member, own⟩
    | some text =>
      cases read : Arguments.read extraction.bindings text with
      | error cause =>
        rw [addConstructions_fault closed read] at met
        cases met
        exact ⟨first, List.mem_cons_self .., text, closed, read⟩
      | ok arguments =>
        rw [addConstructions_read closed read] at met
        obtain ⟨construction, member, own⟩ := ih met
        exact ⟨construction, List.mem_cons_of_mem _ member, own⟩

/-- An argument list that cannot be read stops the constructions, there or earlier. -/
theorem addConstructions_stops {construction : Found (Option (List Char) × Kind)}
    (member : construction ∈ found)
    (closed : Usage.argumentText? statement.text masked construction.stop = some text)
    (unread : Arguments.read extraction.bindings text = .error fault) :
    ∃ cause, (extraction.addConstructions statement masked bound found).1.fault = some cause := by
  induction found generalizing extraction bound with
  | nil => cases member
  | cons first rest ih =>
    rcases List.mem_cons.mp member with rfl | later
    · rw [addConstructions_fault closed unread]
      exact ⟨fault, rfl⟩
    · cases own : Usage.argumentText? statement.text masked first.stop with
      | none =>
        rw [addConstructions_unclosed own]
        exact ih later unread
      | some text =>
        cases read : Arguments.read extraction.bindings text with
        | error cause =>
          rw [addConstructions_fault own read]
          exact ⟨cause, rfl⟩
        | ok arguments =>
          rw [addConstructions_read own read]
          exact ih later unread

end

theorem exists_error_of_addStatement (met : (extraction.addStatement statement).fault = some fault) :
    ∃ value, statement.Asks value ∧ readValueIn extraction.bindings value = .error fault := by
  rw [fault_addStatement] at met
  obtain ⟨found, member, text, closed, unread⟩ := exists_error_of_addConstructions met
  obtain ⟨part, piece, own⟩ := Arguments.exists_error_of_read unread
  exact ⟨valueText part, ⟨found, member, text, closed, part, piece, rfl⟩, own⟩

theorem addStatement_stops {value : List Char} (asks : statement.Asks value)
    (unread : readValueIn extraction.bindings value = .error fault) :
    ∃ cause, (extraction.addStatement statement).fault = some cause := by
  obtain ⟨found, member, text, closed, part, piece, rfl⟩ := asks
  obtain ⟨cause, failed⟩ := Arguments.read_error_of_mem piece unread
  rw [fault_addStatement]
  exact addConstructions_stops member closed failed

theorem bindings_addStatement (quiet : (extraction.addStatement statement).fault = none) :
    (extraction.addStatement statement).extraction.bindings =
      statement.bind extraction.bindings := by
  rw [fault_addStatement] at quiet
  have kept : (extraction.scanConstructions statement).1.extraction.bindings =
      extraction.bindings := bindings_addConstructions
  rw [addStatement_quiet quiet, ← kept]
  unfold addAssignment Statement.bind
  cases assignment? statement.text <;> rfl

theorem exists_error_of_addStatements
    (met : (extraction.addStatements statements).fault = some fault) :
    ∃ bindings value, Asks extraction.bindings statements bindings value ∧
      readValueIn bindings value = .error fault := by
  induction statements generalizing extraction with
  | nil => cases met
  | cons statement rest ih =>
    cases own : (extraction.addStatement statement).fault with
    | some cause =>
      rw [addStatements_fault own] at met
      obtain ⟨value, asks, unread⟩ := exists_error_of_addStatement met
      exact ⟨extraction.bindings, value, .here asks, unread⟩
    | none =>
      rw [addStatements_quiet own] at met
      obtain ⟨bindings, value, asks, unread⟩ := ih met
      rw [bindings_addStatement own] at asks
      exact ⟨bindings, value, .later asks, unread⟩

/-- A value that cannot be read stops the scan, there or earlier. -/
theorem addStatements_stops (extraction : Extraction) {inner : Bindings} {value : List Char}
    (asks : Asks bindings statements inner value) (start : extraction.bindings = bindings)
    (unread : readValueIn inner value = .error fault) :
    ∃ cause, (extraction.addStatements statements).fault = some cause := by
  induction asks generalizing extraction with
  | here asks =>
    obtain ⟨cause, met⟩ := addStatement_stops asks (start ▸ unread)
    rw [addStatements_fault met]
    exact ⟨cause, met⟩
  | @later bindings inner statement rest text asks ih =>
    cases own : (extraction.addStatement statement).fault with
    | some cause =>
      rw [addStatements_fault own]
      exact ⟨cause, own⟩
    | none =>
      rw [addStatements_quiet own]
      exact ih _ (start ▸ bindings_addStatement own) unread

end Extraction

/-- A text can be read under bindings: nothing that reading it comes to is nested too deeply, or is
a whole number with too many digits. -/
def Source.Readable (bindings : Bindings) (text : List Char) : Prop :=
  ∀ nesting inner, Reads bindings text nesting inner →
    nesting < nestingLimit ∧ ∀ negative digits,
      Literal.ofText (Text.trim inner) = .integer negative digits →
        digits.length ≤ Fault.digitLimit

theorem Source.readable_iff :
    Readable bindings text ↔ ∃ value, readValueIn bindings text = .ok value := by
  constructor
  · intro readable
    cases read : readValueIn bindings text with
    | ok value => exact ⟨value, rfl⟩
    | error fault =>
      obtain ⟨nesting, inner, reads, obstacle⟩ := exists_obstacle_of_readWith read
      obtain ⟨shallow, short⟩ := readable nesting inner reads
      cases obstacle with
      | deep nested => omega
      | long integer many => exact absurd (short _ _ integer) (by omega)
  · rintro ⟨value, read⟩ nesting inner reads
    have free (fault : Fault) : ¬Obstacle nestingLimit nesting inner fault := by
      intro obstacle
      obtain ⟨cause, failed⟩ := reads.readWith_error obstacle
      rw [readValueIn, failed] at read
      cases read
    refine ⟨?_, ?_⟩
    · exact Nat.lt_of_not_le fun nested => free _ (.deep nested)
    · intro negative digits integer
      exact Nat.le_of_not_lt fun many => free _ (.long integer many)

theorem extract_eq_error {text sourceId : String} :
    extract text sourceId = .error fault ↔ (scanSource text sourceId).fault = some fault := by
  rw [extract]
  split <;> simp [*]

/-- A source is scanned to its end exactly if every value that it asks for can be read. Where it is
not, the fault says that a value is nested too deeply, or that a whole number has too many
digits. -/
theorem extract_ok_iff_readable (text sourceId : String) :
    ((∃ extraction, extract text sourceId = .ok extraction) ↔
        ∀ bindings value, Asks [] (Source.statements text.toList) bindings value →
          Readable bindings value) ∧
      ∀ fault, extract text sourceId = .error fault →
        fault = .nestedTooDeeply ∨
          ∃ digits, Fault.digitLimit < digits ∧ fault = .numeralTooLong digits := by
  refine ⟨⟨?_, ?_⟩, ?_⟩
  · rintro ⟨extraction, extracted⟩ bindings value asks
    refine readable_iff.mpr ?_
    cases read : readValueIn bindings value with
    | ok value => exact ⟨value, rfl⟩
    | error fault =>
      obtain ⟨cause, met⟩ :=
        Extraction.addStatements_stops { sourceId := sourceId } asks rfl read
      rw [extract_eq_error.mpr met] at extracted
      cases extracted
  · intro readable
    cases outcome : extract text sourceId with
    | ok extraction => exact ⟨extraction, rfl⟩
    | error fault =>
      obtain ⟨bindings, value, asks, unread⟩ :=
        Extraction.exists_error_of_addStatements (extract_eq_error.mp outcome)
      obtain ⟨read, same⟩ := readable_iff.mp (readable bindings value asks)
      rw [unread] at same
      cases same
  · intro fault outcome
    obtain ⟨bindings, value, _, unread⟩ :=
      Extraction.exists_error_of_addStatements (extract_eq_error.mp outcome)
    obtain ⟨nesting, inner, _, obstacle⟩ := exists_obstacle_of_readWith unread
    cases obstacle with
    | deep nested => exact .inl rfl
    | long integer many => exact .inr ⟨_, many, rfl⟩

theorem readWith_digits_error {resolve : Resolve} {room : Nat}
    (digits : ∀ c ∈ text, c.isDigit = true) (many : Fault.digitLimit < text.length) :
    readWith resolve (room + 1) text = .error (.numeralTooLong text.length) := by
  have shown : text ≠ [] := by
    rintro rfl
    cases many
  rw [readWith, (piece_of_isDigit digits shown).trim_eq, Literal.ofText_digits digits shown]
  simp only [Numeral.ofDigits, if_pos many]
  rfl

/-- A call with one argument of digits, on one line. -/
private def digitCall (digits : List Char) (ascii : ∀ c ∈ digits, c.isDigit = true)
    (shown : digits ≠ []) : Usage.Call where
  lead := .none
  holder := none
  kind := .gpio
  arguments := [(.inline .none, digits)]
  closing := .inline .none
  ending := .bare
  closed := by
    intro argument member
    rw [List.mem_singleton.mp member]
    exact piece_of_isDigit ascii shown

/-- A whole number with too many digits as an argument stops the scan. -/
theorem extract_digits_error (digits : List Char) (ascii : ∀ c ∈ digits, c.isDigit = true)
    (many : Fault.digitLimit < digits.length) (sourceId : String) :
    extract (String.ofList ("GPIO.new(".toList ++ digits ++ [')'])) sourceId =
      .error (.numeralTooLong digits.length) := by
  have shown : digits ≠ [] := by
    rintro rfl
    cases many
  have text : (digitCall digits ascii shown).text = "GPIO.new(".toList ++ digits ++ [')'] := by
    simp [digitCall, Usage.Call.text, Usage.Call.front, spread, Usage.separated, Gap.text,
      Spaces.none, LineEnd.bare, LineEnd.text, Kind.name]
  have unread : ((digitCall digits ascii shown).arguments.map Prod.snd).foldlM (Arguments.add []) {} =
      .error (.numeralTooLong digits.length) := by
    have failed : Arguments.add [] {} digits = .error (.numeralTooLong digits.length) := by
      rw [Arguments.add_eq_error, valueText, namedArgument?_digits ascii shown]
      exact readWith_digits_error ascii many
    rw [digitCall, List.map_singleton, List.foldlM_cons, failed]
    rfl
  rw [← text]
  exact (digitCall digits ascii shown).extract_fault (Nat.zero_le _) sourceId unread

/-- Not every source is scanned to its end. -/
theorem not_forall_extract_ok :
    extract (String.ofList ("GPIO.new(".toList ++ List.replicate 4301 '1' ++ [')'])) "<string>" =
        .error (.numeralTooLong 4301) ∧
      ¬∀ text sourceId, ∃ extraction, extract text sourceId = .ok extraction := by
  have failed := extract_digits_error (List.replicate 4301 '1')
    (fun c member => by rw [List.eq_of_mem_replicate member]; rfl)
    (by rw [List.length_replicate]; decide) "<string>"
  rw [List.length_replicate] at failed
  refine ⟨failed, ?_⟩
  intro total
  obtain ⟨extraction, extracted⟩ := total _ _
  rw [failed] at extracted
  cases extracted

end PinBudget
