import PinBudget.Proofs.Source.Layout
import PinBudget.Proofs.Source.Name
import PinBudget.Proofs.Source.Pattern
import PinBudget.Proofs.Usage.ArgumentText
import PinBudget.Proofs.Usage.Scanning

/-!
Constructor calls as source text: one call, laid out over one line or several, with any texts as its
arguments that keep their brackets and quotes closed. A scan finds exactly this one construction and
takes its argument list apart into these texts.
-/
namespace PinBudget.Usage

open Source

theorem point_mem_of_constructor? {text : List Char} {found : Kind × List Char}
    (behind : constructor? text = some found) : '.' ∈ text := by
  obtain ⟨kind, _, own⟩ := List.exists_of_findSome?_eq_some behind
  split at own
  · rename_i rest after
    exact mem_of_after? after '.' (by simp)
  · cases own

theorem point_mem_of_boundConstructor? {text : List Char}
    {found : (List Char × Kind) × List Char} (behind : boundConstructor? text = some found) :
    '.' ∈ text := by
  unfold boundConstructor? at behind
  split at behind
  · cases behind
  · rename_i rest holder
    split at behind
    · rename_i right equals
      obtain ⟨_, own, _⟩ := Option.map_eq_some_iff.mp behind
      have later : right <:+ Text.trimLeft rest := equals ▸ List.suffix_cons '=' right
      have within : Text.trimLeft right <:+ text :=
        (((List.dropWhile_suffix _).trans later).trans (List.dropWhile_suffix _)).trans
          (behindVariable?_suffix holder)
      exact within.subset (point_mem_of_constructor? own)
    · cases behind

theorem point_mem_of_construction (before : Option Char) (text : List Char)
    (found : (Option (List Char) × Kind) × List Char)
    (behind : construction before text = some found) : '.' ∈ text := by
  unfold construction at behind
  split at behind
  · exact point_mem_of_boundConstructor? ‹_›
  · split at behind
    · obtain ⟨_, own, _⟩ := Option.map_eq_some_iff.mp behind
      exact point_mem_of_constructor? own
    · cases behind

theorem constructor?_append (kind : Kind) {rest : List Char}
    (ends : rest.head?.any Text.isWord = false) :
    constructor? (kind.name.toList ++ (".new".toList ++ rest)) = some (kind, rest) := by
  cases kind <;>
    simp [constructor?, Kind.all, Kind.name, after?, ends]

theorem construction_unbound (kind : Kind) {rest : List Char}
    (ends : rest.head?.any Text.isWord = false) :
    construction none (kind.name.toList ++ (".new".toList ++ rest)) = some ((none, kind), rest) := by
  have free : boundConstructor? (kind.name.toList ++ (".new".toList ++ rest)) = none := by
    cases kind <;> rfl
  have edge : Text.atWordEdge none (kind.name.toList ++ (".new".toList ++ rest)) = true := by
    cases kind <;> rfl
  rw [construction, free]
  simp only [edge, constructor?_append kind ends, ↓reduceIte, Option.map_some]

theorem trimLeft_kind (kind : Kind) (rest : List Char) :
    Text.trimLeft (' ' :: (kind.name.toList ++ rest)) = kind.name.toList ++ rest := by
  cases kind <;> rfl

theorem construction_bound (holder : Variable) (kind : Kind) {rest : List Char}
    (ends : rest.head?.any Text.isWord = false) :
    construction none
        (holder.text ++ (" = ".toList ++ (kind.name.toList ++ (".new".toList ++ rest)))) =
      some ((some holder.text, kind), rest) := by
  have apart (text : List Char) : (" = ".toList ++ text).head?.any Text.isWord = false := rfl
  have trimmed (text : List Char) : Text.trimLeft (" = ".toList ++ text) = '=' :: ' ' :: text := rfl
  rw [construction, boundConstructor?, holder.behindVariable?_append (apart _),
    holder.variableAt_append (apart _)]
  simp only [trimmed, trimLeft_kind, constructor?_append kind ends, Option.map_some]

theorem tidy_constructed (kind : Kind) : Text.Tidy (kind.name.toList ++ ".new".toList) := by
  obtain ⟨first, last⟩ :
      (kind.name.toList ++ ".new".toList).head?.any Text.isBlank = false ∧
        (kind.name.toList ++ ".new".toList).getLast?.any Text.isBlank = false := by
    cases kind <;> decide
  constructor
  · intro c found
    rwa [found] at first
  · intro c found
    rwa [found] at last

/-- A constructor call as it is laid out in a source: what it is assigned to, its kind, the texts of
its arguments with the gaps before them, the gap before its closing parenthesis, and what stands
before and behind it. -/
structure Call where
  lead : Spaces
  holder : Option Variable
  kind : Kind
  arguments : List (Gap × List Char)
  closing : Gap
  ending : LineEnd
  closed : ∀ argument ∈ arguments, Piece argument.2

/-- Argument texts with a comma behind each but the last. -/
def separated : List (Gap × List Char) → List (Gap × List Char)
  | [] => []
  | [last] => [last]
  | (gap, text) :: next :: rest => (gap, text ++ [',']) :: separated (next :: rest)

namespace Call

/-- The call up to its opening parenthesis. -/
def front (call : Call) : List Char :=
  let constructed := call.kind.name.toList ++ ".new".toList
  match call.holder with
  | some holder => holder.text ++ (" = ".toList ++ constructed)
  | none => constructed

/-- The call as it is laid out. -/
def text (call : Call) : List Char :=
  call.lead.text ++ (call.front ++ ['(']) ++
    (spread (separated call.arguments) ++ (call.closing.text ++ ([')'] ++ call.ending.text)))

/-- What stands between the parentheses, on one line. -/
def inside (call : Call) : List Char :=
  unspread (separated call.arguments) ++ call.closing.joined

/-- The call on one line. -/
def statement (call : Call) : List Char :=
  call.front ++ '(' :: (call.inside ++ [')'])

/-- The lines that begin inside the call. -/
def turns (call : Call) : Nat :=
  turnsIn (separated call.arguments) + call.closing.turns

/-- What a scan finds of the call. -/
def found (call : Call) : Option (List Char) × Kind :=
  (call.holder.map Variable.text, call.kind)

variable (call : Call)

theorem construction_front {rest : List Char} (ends : rest.head?.any Text.isWord = false) :
    construction none (call.front ++ rest) = some (call.found, rest) := by
  unfold front found
  cases call.holder with
  | none =>
    simp only [List.append_assoc]
    exact construction_unbound call.kind ends
  | some holder =>
    simp only [List.append_assoc]
    exact construction_bound holder call.kind ends

theorem front_ne_nil : call.front ≠ [] := by
  unfold front
  split <;> simp

/-- Up to its parenthesis a call shows plain characters only. -/
theorem inline_front : ∀ c ∈ call.front, isInline c = true := by
  have constructed : ∀ c ∈ call.kind.name.toList ++ ".new".toList, isInline c = true :=
    List.all_eq_true.mp (by cases call.kind <;> decide)
  have equals : ∀ c ∈ " = ".toList, isInline c = true := List.all_eq_true.mp (by decide)
  unfold front
  cases call.holder with
  | none => exact constructed
  | some holder =>
    simp only [Variable.text, List.mem_append, List.mem_replicate]
    rintro c ((⟨-, rfl⟩ | word) | sign | late)
    · decide
    · exact isInline_of_isWord (holder.identifier.isWord_of_mem c word)
    · exact equals c sign
    · exact constructed c (List.mem_append.mpr late)

theorem plain_front : ∀ c ∈ call.front, isPlain c = true :=
  fun c member => (isInline_iff.mp (call.inline_front c member)).1

theorem run_front : ScanState.run {} call.front = ScanState.level 0 := by
  have steady : Steady (fun _ _ => True) call.front :=
    .ofPlain call.plain_front fun _ _ _ => trivial
  exact (steady 0).1

theorem word_front : Word call.front where
  code := code_of_plain fun c member =>
    ⟨call.plain_front c member, (isInline_iff.mp (call.inline_front c member)).2.1⟩
  tidy := by
    unfold front
    cases call.holder with
    | none => exact tidy_constructed call.kind
    | some holder =>
      have piece := holder.piece_text
      have joined := piece.tidy.append (tidy_constructed call.kind) piece.shown (by simp)
        " = ".toList
      rwa [List.append_assoc] at joined
  unbroken c member := (isInline_iff.mp (call.inline_front c member)).2.2

end Call

theorem inner_separated {arguments : List (Gap × List Char)}
    (closed : ∀ argument ∈ arguments, Piece argument.2) :
    ∀ word ∈ separated arguments, InnerWord word.2 := by
  induction arguments using separated.induct with
  | case1 => nofun
  | case2 last =>
    have own := closed last (List.mem_cons_self ..)
    simpa [separated] using (⟨own.steady, own.tidy, own.unbroken, own.shown⟩ : InnerWord last.2)
  | case3 gap text next rest ih =>
    have own := closed (gap, text) (List.mem_cons_self ..)
    refine List.forall_mem_cons.mpr ⟨⟨own.steady.append steady_comma, ?_, ?_, by simp⟩,
      ih fun other member => closed other (List.mem_cons_of_mem _ member)⟩
    · have comma : Text.Tidy [','] := Text.tidy_singleton (by decide)
      have tidy := own.tidy.append comma own.shown (by simp) []
      rwa [List.append_nil] at tidy
    · simp only [List.mem_append, List.mem_singleton]
      rintro c (inner | rfl)
      · exact own.unbroken c inner
      · decide

theorem separated_cons (gap : Gap) (text : List Char) (rest : List (Gap × List Char)) :
    ∃ behind tail, separated ((gap, text) :: rest) = (gap, text ++ behind) :: tail ∧
      ∀ c, (behind ++ unspread tail).head? = some c → c = ',' := by
  cases rest with
  | nil => exact ⟨[], [], by simp [separated], nofun⟩
  | cons next rest => exact ⟨[','], separated (next :: rest), rfl, by simp⟩

theorem turnsIn_separated (arguments : List (Gap × List Char)) :
    turnsIn (separated arguments) = turnsIn arguments := by
  induction arguments using separated.induct with
  | case1 => rfl
  | case2 last => rfl
  | case3 gap text next rest ih =>
    rw [separated, turnsIn, ih]
    rfl

theorem splitArguments_separated {arguments : List (Gap × List Char)} {behind : List Char}
    (closed : ∀ argument ∈ arguments, Piece argument.2)
    (blank : ∀ c ∈ behind, Text.isBlank c = true) :
    splitArguments (unspread (separated arguments) ++ behind) = arguments.map Prod.snd := by
  induction arguments using separated.induct with
  | case1 => exact splitArguments_blank blank
  | case2 last =>
    have own := closed last (List.mem_cons_self ..)
    have split := own.splitArguments_last last.1.joined_blank blank
    simpa [separated, unspread] using split
  | case3 gap text next rest ih =>
    have own := closed (gap, text) (List.mem_cons_self ..)
    have split := own.splitArguments_comma gap.joined_blank
      (unspread (separated (next :: rest)) ++ behind)
    rw [ih fun other member => closed other (List.mem_cons_of_mem _ member)] at split
    simpa [separated, unspread] using split

theorem steady_unspread {words : List (Gap × List Char)}
    (inner : ∀ word ∈ words, InnerWord word.2) : Steady Mark.Inside (unspread words) := by
  refine .flatMap fun word member => ?_
  exact ((steady_blanks word.1.joined_blank).imp fun _ _ => (·.toInside)).append
    (inner word member).steady

namespace Call

variable (call : Call)

theorem steady_inside : Steady Mark.Inside call.inside :=
  (steady_unspread (inner_separated call.closed)).append
    ((steady_blanks call.closing.joined_blank).imp fun _ _ => (·.toInside))

theorem statements_text (few : call.turns ≤ continuationLimit) :
    statements call.text = [⟨1, call.statement⟩] := by
  have opened : ScanState.run {} (call.front ++ ['(']) = ScanState.level 1 := by
    rw [ScanState.run_append, call.run_front]
    rfl
  have front : Word (call.front ++ ['(']) := by
    have joined := call.word_front.append word_opening call.front_ne_nil (by simp) .none
    rwa [Spaces.none, List.append_nil] at joined
  have joined := statements_spread call.lead front (by simp) opened
    (separated call.arguments) (inner_separated call.closed) call.closing call.ending few
  rw [text, joined]
  simp [statement, inside]

theorem occurrences_statement :
    occurrences construction (mask call.statement) = [⟨0, call.front.length, call.found⟩] := by
  obtain ⟨rest, masked, pointless⟩ := mask_parenthesized call.steady_inside
  have ends : ('(' :: rest).head?.any Text.isWord = false := rfl
  rw [statement, mask_append_of_plain call.plain_front, masked]
  exact occurrences_of_front point_mem_of_construction (call.construction_front ends)
    call.front_ne_nil (by simpa using pointless)

theorem argumentText?_statement :
    argumentText? call.statement (mask call.statement) call.front.length = some call.inside := by
  obtain ⟨rest, masked, -⟩ := mask_parenthesized call.steady_inside
  have closing := findClosing?_eq call.run_front call.steady_inside
  have begun : parenthesisBehind? (mask call.statement) call.front.length =
      some call.front.length := by
    refine parenthesisBehind?_eq_some_iff.mpr ⟨[], rest, ?_, List.forall_mem_nil _, rfl⟩
    rw [statement, mask_append_of_plain call.plain_front, masked, List.drop_left]
    rfl
  rw [← statement] at closing
  have parted : call.statement = ((call.front ++ ['(']) ++ call.inside) ++ [')'] := by
    simp [statement]
  have kept : call.statement.take (call.front.length + 1 + call.inside.length) =
      (call.front ++ ['(']) ++ call.inside := by
    rw [parted]
    exact List.take_left' (by simp; omega)
  rw [argumentText?_eq, begun, Option.elim_some, closing, Option.map_some, between, kept,
    List.drop_left' (by simp)]

theorem read_inside (bindings : Bindings) :
    Arguments.read bindings call.inside =
      (call.arguments.map Prod.snd).foldlM (Arguments.add bindings) {} := by
  rw [Arguments.read, inside,
    splitArguments_separated call.closed call.closing.joined_blank]

theorem feed_text (few : call.turns ≤ continuationLimit) (extraction : Extraction) :
    extraction.feed (String.ofList call.text) = extraction.addStatement ⟨1, call.statement⟩ := by
  rw [Extraction.feed, String.toList_ofList, call.statements_text few,
    Extraction.addStatements_singleton]

variable {arguments : Arguments} {fault : Fault}

theorem feed_read (few : call.turns ≤ continuationLimit) {extraction : Extraction}
    (read : (call.arguments.map Prod.snd).foldlM (Arguments.add extraction.bindings) {} =
      .ok arguments) :
    (extraction.feed (String.ofList call.text)).fault = none ∧
      (extraction.feed (String.ofList call.text)).extraction.events = extraction.events ++
        [.ofConstruction extraction.sourceId ⟨1, call.statement⟩ call.found arguments] := by
  rw [← call.read_inside] at read
  rw [call.feed_text few]
  exact Extraction.addStatement_read ⟨1, call.statement⟩ call.occurrences_statement
    call.argumentText?_statement read

theorem feed_fault (few : call.turns ≤ continuationLimit) {extraction : Extraction}
    (unread : (call.arguments.map Prod.snd).foldlM (Arguments.add extraction.bindings) {} =
      .error fault) :
    (extraction.feed (String.ofList call.text)).fault = some fault := by
  rw [← call.read_inside] at unread
  rw [call.feed_text few]
  exact Extraction.addStatement_unread ⟨1, call.statement⟩ call.occurrences_statement
    call.argumentText?_statement unread

/-- A call whose arguments can be read is the one event of its source. -/
theorem extract_read (few : call.turns ≤ continuationLimit) (sourceId : String)
    (read : (call.arguments.map Prod.snd).foldlM (Arguments.add []) {} = .ok arguments) :
    ∃ extraction, extract (String.ofList call.text) sourceId = .ok extraction ∧
      extraction.events =
        [.ofConstruction sourceId ⟨1, call.statement⟩ call.found arguments] := by
  have scanned : (scanSource (String.ofList call.text) sourceId).fault = none ∧ _ :=
    call.feed_read few read
  obtain ⟨quiet, events⟩ := scanned
  exact ⟨_, extract_eq_ok.mpr ⟨quiet, rfl⟩, events⟩

theorem extract_fault (few : call.turns ≤ continuationLimit) (sourceId : String)
    (unread : (call.arguments.map Prod.snd).foldlM (Arguments.add []) {} = .error fault) :
    extract (String.ofList call.text) sourceId = .error fault := by
  have met : (scanSource (String.ofList call.text) sourceId).fault = some fault :=
    call.feed_fault few unread
  rw [extract]
  simp only [met]

end Call

end PinBudget.Usage
