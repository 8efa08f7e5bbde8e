import PinBudget.Proofs.Source.Operand
import PinBudget.Proofs.Usage.Call

/-!
Constructor calls without parentheses. What stands behind the constructor is found in another way
than between parentheses, and what begins like a block counts as no arguments; apart from that, a
call without parentheses says the same as the call with them.
-/
namespace PinBudget.Usage

open Source

namespace Call

variable (call : Call)

/-- The call without its parentheses, on one line. -/
def bareStatement : List Char :=
  call.front ++ [' '] ++ call.inside

/-- The call without its parentheses as it is laid out. -/
def bareText : List Char :=
  call.lead.text ++ call.bareStatement ++ call.ending.text

variable {call}

theorem statements_bareText (word : Word call.inside) (shown : call.inside ≠ []) :
    statements call.bareText = [⟨1, call.bareStatement⟩] := by
  have whole := call.word_front.append word call.front_ne_nil shown .one
  exact statements_word call.lead whole (by simp [Spaces.one]) call.ending

theorem mask_bareStatement : mask call.bareStatement = call.front ++ ' ' :: mask call.inside := by
  have plain : ∀ c ∈ [' '], isPlain c = true := List.forall_mem_singleton.mpr (by decide)
  rw [bareStatement, List.append_assoc, mask_append_of_plain call.plain_front,
    mask_append_of_plain plain]
  rfl

theorem occurrences_bareStatement :
    occurrences construction (mask call.bareStatement) = [⟨0, call.front.length, call.found⟩] := by
  have ends : (' ' :: mask call.inside).head?.any Text.isWord = false := rfl
  have pointless : '.' ∉ ' ' :: mask call.inside := by
    simpa using point_notMem_mask call.steady_inside
  rw [mask_bareStatement]
  exact occurrences_of_front point_mem_of_construction (call.construction_front ends)
    call.front_ne_nil pointless

end Call

/-- The text begins with the letters of the word that begins a block. -/
def BeginsBlock (text : List Char) : Prop :=
  "do".toList <+: text

instance (text : List Char) : Decidable (BeginsBlock text) :=
  inferInstanceAs (Decidable (_ <+: _))

/-- Of what an operand can begin with, only the word that begins a block begins no argument. -/
theorem isSome_oneOf?_nonArguments {c : Char} (opens : opensOperand c = true) (rest : List Char) :
    (oneOf? nonArguments (c :: rest)).isSome = true ↔ BeginsBlock (c :: rest) := by
  have other (x : Char) (shut : opensOperand x = false) : x ≠ c := by
    rintro rfl
    rw [opens] at shut
    cases shut
  simp [BeginsBlock, oneOf?, nonArguments, after?, other '.' (by decide), other ')' (by decide),
    other ']' (by decide), other '\x7d' (by decide), other '\x7b' (by decide)]

namespace Call

variable {call : Call} {c : Char} {rest : List Char}

/-- Behind a constructor without parentheses, everything is arguments, or nothing is. -/
theorem argumentText?_bareStatement (word : Word call.inside) (inside : call.inside = c :: rest)
    (opens : opensOperand c = true) :
    argumentText? call.bareStatement (mask call.bareStatement) call.front.length =
      some (if BeginsBlock call.inside then [] else call.inside) := by
  obtain ⟨others, shown⟩ := mask_cons c rest
  have blank : ∀ c ∈ [' '], Text.isBlank c = true := List.forall_mem_singleton.mpr (by decide)
  have visible : Text.isBlank c = false := word.tidy.first c (by rw [inside]; rfl)
  have behind : Text.trimLeft ((mask call.bareStatement).drop call.front.length) = c :: others := by
    rw [mask_bareStatement, List.drop_left, inside, shown, ← List.singleton_append,
      Text.trimLeft_blanks blank, Text.trimLeft_cons visible]
  have unparenthesized : c ≠ '(' := by
    rintro rfl
    exact absurd opens (by decide)
  have kept : Text.trim (call.bareStatement.drop call.front.length) = call.inside := by
    have trimmed := word.tidy.trim_eq blank (List.forall_mem_nil _)
    rw [List.append_nil] at trimmed
    rw [bareStatement, List.append_assoc, List.drop_left, trimmed]
  have block : (oneOf? nonArguments (c :: others)).isSome = true ↔ BeginsBlock call.inside := by
    have plain : ∀ c ∈ "do".toList, isPlain c = true := List.all_eq_true.mp (by decide)
    rw [isSome_oneOf?_nonArguments opens, ← shown, BeginsBlock, prefix_mask plain, inside]
    rfl
  rw [argumentText?]
  simp only [behind, kept]
  by_cases begun : BeginsBlock call.inside
  · simp [unparenthesized, block.mpr begun, begun]
  · have free : (oneOf? nonArguments (c :: others)).isSome = false :=
      Bool.eq_false_iff.mpr (mt block.mp begun)
    simp [unparenthesized, free, begun]

theorem feed_bareText (word : Word call.inside) (shown : call.inside ≠ [])
    (extraction : Extraction) :
    extraction.feed (String.ofList call.bareText) =
      extraction.addStatement ⟨1, call.bareStatement⟩ := by
  rw [Extraction.feed, String.toList_ofList, statements_bareText word shown,
    Extraction.addStatements_singleton]

end Call

/-- A call as both forms write it: on one line, with at least one argument. -/
structure Invocation where
  lead : Spaces
  holder : Option Variable
  kind : Kind
  first : Argument
  rest : List (Spaces × Argument)
  spacing : Spaces
  ending : LineEnd

namespace Invocation

def arguments (invocation : Invocation) : List Argument :=
  invocation.first :: invocation.rest.map Prod.snd

/-- The texts of the arguments behind the first, with the gaps before them. -/
def further (invocation : Invocation) : List (Gap × List Char) :=
  invocation.rest.map fun (spaces, argument) =>
    (.inline spaces, argument.written invocation.spacing)

/-- The argument texts with the gaps before them. -/
def pieces (invocation : Invocation) : List (Gap × List Char) :=
  (.inline .none, invocation.first.written invocation.spacing) :: invocation.further

/-- The call with its parentheses. -/
def call (invocation : Invocation) : Call where
  lead := invocation.lead
  holder := invocation.holder
  kind := invocation.kind
  arguments := invocation.pieces
  closing := .inline .none
  ending := invocation.ending
  closed := by
    refine List.forall_mem_cons.mpr ⟨invocation.first.piece_written _, ?_⟩
    intro piece member
    obtain ⟨other, _, rfl⟩ := List.mem_map.mp member
    exact other.2.piece_written _

variable (invocation : Invocation)

theorem map_snd_pieces :
    invocation.pieces.map Prod.snd =
      invocation.arguments.map (Argument.written invocation.spacing) := by
  simp [pieces, further, arguments]

theorem turns_call : invocation.call.turns = 0 := by
  have inline : ∀ word ∈ invocation.pieces, word.1.turns = 0 := by
    refine List.forall_mem_cons.mpr ⟨rfl, ?_⟩
    intro piece member
    obtain ⟨other, _, rfl⟩ := List.mem_map.mp member
    rfl
  rw [Call.turns, turnsIn_separated]
  exact turnsIn_inline inline

/-- Between the parentheses stands the first argument, and then nothing or a comma. -/
theorem inside_call :
    ∃ behind, invocation.call.inside = invocation.first.written invocation.spacing ++ behind ∧
      (∀ c, behind.head? = some c → c = ',') ∧ Word invocation.call.inside := by
  obtain ⟨behind, tail, same, apart⟩ := separated_cons (.inline .none)
    (invocation.first.written invocation.spacing) invocation.further
  have inside : invocation.call.inside =
      (invocation.first.written invocation.spacing ++ behind) ++ unspread tail := by
    rw [Call.inside]
    show unspread (separated (_ :: invocation.further)) ++ [] = _
    rw [same]
    simp [unspread, Gap.joined, Spaces.none]
  have inner := inner_separated invocation.call.closed
  change ∀ word ∈ separated (_ :: invocation.further), InnerWord word.2 at inner
  rw [same, List.forall_mem_cons] at inner
  refine ⟨behind ++ unspread tail, ?_, apart, ?_⟩
  · rw [inside, List.append_assoc]
  · rw [inside]
    exact word_unspread inner.1.word inner.1.shown inner.2

theorem beginsBlock_inside :
    BeginsBlock invocation.call.inside ↔
      BeginsBlock (invocation.first.written invocation.spacing) := by
  obtain ⟨behind, same, apart, -⟩ := invocation.inside_call
  obtain ⟨c, rest, first, _⟩ := invocation.first.opens_written invocation.spacing
  rw [same, first]
  cases rest with
  | nil =>
    cases behind with
    | nil => rfl
    | cons d others =>
      have comma : d = ',' := apart d rfl
      simp [BeginsBlock, comma]
  | cons d others => simp [BeginsBlock]

theorem exists_inside_eq_cons :
    ∃ c rest, invocation.call.inside = c :: rest ∧ opensOperand c = true := by
  obtain ⟨behind, same, -, -⟩ := invocation.inside_call
  obtain ⟨c, rest, first, opens⟩ := invocation.first.opens_written invocation.spacing
  rw [first] at same
  exact ⟨c, rest ++ behind, same, opens⟩

theorem word_inside : Word invocation.call.inside := by
  obtain ⟨_, _, _, word⟩ := invocation.inside_call
  exact word

/-- What counts as the argument text where there are no parentheses. -/
def bareInside : List Char :=
  if BeginsBlock (invocation.first.written invocation.spacing) then [] else invocation.call.inside

theorem argumentText?_bare :
    argumentText? invocation.call.bareStatement (mask invocation.call.bareStatement)
      invocation.call.front.length = some invocation.bareInside := by
  obtain ⟨c, rest, inside, opens⟩ := invocation.exists_inside_eq_cons
  rw [Call.argumentText?_bareStatement invocation.word_inside inside opens, bareInside]
  simp only [invocation.beginsBlock_inside]

variable {extraction : Extraction} {arguments : Arguments} {fault : Fault}

theorem feed_bare (extraction : Extraction) :
    extraction.feed (String.ofList invocation.call.bareText) =
      extraction.addStatement ⟨1, invocation.call.bareStatement⟩ := by
  obtain ⟨c, rest, inside, _⟩ := invocation.exists_inside_eq_cons
  exact Call.feed_bareText invocation.word_inside (by simp [inside]) extraction

theorem feed_bare_read (read : Arguments.read extraction.bindings invocation.bareInside =
      .ok arguments) :
    (extraction.feed (String.ofList invocation.call.bareText)).fault = none ∧
      (extraction.feed (String.ofList invocation.call.bareText)).extraction.events =
        extraction.events ++ [.ofConstruction extraction.sourceId
          ⟨1, invocation.call.bareStatement⟩ invocation.call.found arguments] := by
  rw [invocation.feed_bare]
  exact Extraction.addStatement_read ⟨1, invocation.call.bareStatement⟩
    Call.occurrences_bareStatement invocation.argumentText?_bare read

theorem feed_bare_fault (unread : Arguments.read extraction.bindings invocation.bareInside =
      .error fault) :
    (extraction.feed (String.ofList invocation.call.bareText)).fault = some fault := by
  rw [invocation.feed_bare]
  exact Extraction.addStatement_unread ⟨1, invocation.call.bareStatement⟩
    Call.occurrences_bareStatement invocation.argumentText?_bare unread

/-- Arguments that can be read one by one can be read together. -/
theorem exists_read_of_fits {bindings : Bindings}
    (fits : ∀ argument ∈ invocation.arguments, argument.operand.Fits bindings nestingLimit) :
    ∃ arguments, Arguments.read bindings invocation.call.inside = .ok arguments := by
  cases read : Arguments.read bindings invocation.call.inside with
  | ok arguments => exact ⟨arguments, rfl⟩
  | error fault =>
    rw [invocation.call.read_inside] at read
    change (invocation.pieces.map Prod.snd).foldlM _ _ = _ at read
    rw [invocation.map_snd_pieces] at read
    obtain ⟨part, member, _, failed⟩ := exists_error_of_foldlM read
    obtain ⟨argument, own, rfl⟩ := List.mem_map.mp member
    rw [Arguments.add_eq_error, argument.valueText_written] at failed
    obtain ⟨value, succeeded⟩ := (fits argument own).exists_readWith invocation.spacing
    rw [readValueIn, succeeded] at failed
    cases failed

/-- A call without parentheses says what the call with them says, whatever was scanned before: it
stops the scan with the same fault, or adds an event with the same kind, variable and values. Only
where the first argument begins with the letters of the word that begins a block does it add an
event without arguments. Arguments whose variables are unbound, or bound to what can be read, stop
neither. -/
theorem bare_reads_as_closed (extraction : Extraction) :
    let bare := extraction.feed (String.ofList invocation.call.bareText)
    let closed := extraction.feed (String.ofList invocation.call.text)
    let block := BeginsBlock (invocation.first.written invocation.spacing)
    (¬block → bare.fault = closed.fault ∧
      (closed.fault = none → ∃ event : Event,
        event.kind = invocation.kind ∧ event.holder = invocation.holder.map Variable.name ∧
        bare.extraction.events = extraction.events ++ [event] ∧
        closed.extraction.events = extraction.events ++
          [{ event with raw := String.ofList invocation.call.statement }])) ∧
    (block → bare.fault = none ∧ ∃ event : Event,
      event.kind = invocation.kind ∧ event.holder = invocation.holder.map Variable.name ∧
      event.positional = [] ∧ event.named = [] ∧
      bare.extraction.events = extraction.events ++ [event]) ∧
    ((∀ argument ∈ invocation.arguments,
        argument.operand.Fits extraction.bindings nestingLimit) → closed.fault = none) := by
  have few : invocation.call.turns ≤ continuationLimit := by
    rw [invocation.turns_call]
    exact Nat.zero_le _
  have holder (statement : Statement) (arguments : Arguments) :
      (Event.ofConstruction extraction.sourceId statement invocation.call.found arguments).holder =
        invocation.holder.map Variable.name := by
    simp only [Event.ofConstruction, Call.found, Option.map_map]
    rfl
  refine ⟨?_, ?_, ?_⟩
  · intro plain
    have same : invocation.bareInside = invocation.call.inside := if_neg plain
    cases read : Arguments.read extraction.bindings invocation.call.inside with
    | error fault =>
      have stopped := invocation.feed_bare_fault (same ▸ read)
      have stoppedToo := invocation.call.feed_fault few (invocation.call.read_inside _ ▸ read)
      refine ⟨stopped.trans stoppedToo.symm, ?_⟩
      rw [stoppedToo]
      nofun
    | ok arguments =>
      obtain ⟨quiet, events⟩ := invocation.feed_bare_read (same ▸ read)
      obtain ⟨quietToo, eventsToo⟩ :=
        invocation.call.feed_read few (invocation.call.read_inside _ ▸ read)
      exact ⟨quiet.trans quietToo.symm, fun _ => ⟨_, rfl, holder _ _, events, eventsToo⟩⟩
  · intro block
    have nothing : invocation.bareInside = [] := if_pos block
    have read : Arguments.read extraction.bindings invocation.bareInside = .ok {} := by
      rw [nothing]
      rfl
    obtain ⟨quiet, events⟩ := invocation.feed_bare_read read
    exact ⟨quiet, _, rfl, holder _ _, rfl, rfl, events⟩
  · intro fits
    obtain ⟨arguments, read⟩ := invocation.exists_read_of_fits fits
    exact (invocation.call.feed_read few (invocation.call.read_inside _ ▸ read)).1

/-- A call with a variable, and with a list under a name. -/
private def buzzerCall : Invocation where
  lead := .none
  holder := some ⟨1, ⟨'b', "uzzer".toList, by decide, List.all_eq_true.mp (by decide)⟩⟩
  kind := .pwm
  first := ⟨none, .name ⟨0, ⟨'p', "in".toList, by decide, List.all_eq_true.mp (by decide)⟩⟩⟩
  rest := [(.one, ⟨some ⟨'f', "req".toList, by decide, List.all_eq_true.mp (by decide)⟩,
    .constant (.list [.int 440 (by decide +kernel), .nil])⟩)]
  spacing := .none
  ending := .bare

theorem bare_reads_as_closed_buzzer :
    let assigned : Extraction := { sourceId := "main", bindings := [("pin", "5")] }
    ∃ event : Event,
      event.kind = .pwm ∧ event.holder = some "@buzzer" ∧
      (assigned.feed "@buzzer = PWM.new pin, freq: [440,nil]").extraction.events = [event] ∧
      (assigned.feed "@buzzer = PWM.new(pin, freq: [440,nil])").extraction.events =
        [{ event with raw := "@buzzer = PWM.new(pin, freq: [440,nil])" }] := by
  intro assigned
  obtain ⟨unblocked, -, quiet⟩ := buzzerCall.bare_reads_as_closed assigned
  obtain ⟨-, both⟩ := unblocked (by decide)
  refine both (quiet (List.forall_mem_cons.mpr ⟨?_, List.forall_mem_singleton.mpr ?_⟩))
  · exact .bound rfl rfl
  · exact .constant (by decide)

/-- A variable whose name begins like a block is lost without parentheses, and so is an argument
under such a name. -/
theorem bare_loses_block_like_names :
    let values (text : String) : List (List Bool × List String) :=
      (scanSource text "<string>").extraction.events.map fun event =>
        (event.positional.map Value.isUnresolved, event.named.map Prod.fst)
    values "GPIO.new dout" = [([], [])] ∧ values "GPIO.new(dout)" = [([true], [])] ∧
      values "GPIO.new do_it: 5" = [([], [])] ∧ values "GPIO.new(do_it: 5)" = [([], ["do_it"])] := by
  decide +kernel

end Invocation

end PinBudget.Usage
