import PinBudget.Proofs.Source.Scan

/-!
The quoted texts of a line that closes its quotes. Such a line is made up of characters outside
quotes and of quoted texts in a row, and a scan goes through each of these as through a text of its
own.
-/
namespace PinBudget.Source

open ScanState

variable {quote : Char} {line front rest content : List Char} {start stop : Nat}

/-- The quote that will close the quoted text in which a scan stands behind a text. -/
def quoteBehind (text : List Char) : Option Char :=
  (ScanState.run {} text).quote

/-- A scan of the line reads one quoted text from an index up to another one: it stands outside
quotes before the opening quote, inside them up to the closing one, and outside again behind
that. -/
structure QuotedAt (text : List Char) (quote : Char) (start stop : Nat) : Prop where
  opening : text[start]? = some quote
  quoting : isQuote quote = true
  before : quoteBehind (text.take start) = none
  inside : ∀ index, start < index → index < stop → quoteBehind (text.take index) = some quote
  closing : start + 1 < stop ∧ text[stop - 1]? = some quote
  behind : quoteBehind (text.take stop) = none

/-- What can stand between a quote and the one that closes it: the quote itself only behind a
backslash. -/
inductive Enclosed (quote : Char) : List Char → Prop where
  | nil : Enclosed quote []
  | plain {c : Char} {rest : List Char} (inner : c ≠ quote ∧ c ≠ '\\')
      (more : Enclosed quote rest) :
      Enclosed quote (c :: rest)
  | escaped {c : Char} {rest : List Char} (more : Enclosed quote rest) :
      Enclosed quote ('\\' :: c :: rest)

/-- A text that closes its quotes: characters outside quotes and quoted texts in a row. -/
inductive Quoting : List Char → Prop where
  | nil : Quoting []
  | plain {c : Char} {rest : List Char} (unquoting : isQuote c = false) (more : Quoting rest) :
      Quoting (c :: rest)
  | quoted {quote : Char} {content rest : List Char} (opening : isQuote quote = true)
      (enclosed : Enclosed quote content) (more : Quoting rest) :
      Quoting ((quote :: content ++ [quote]) ++ rest)

theorem ne_backslash_of_isQuote (quoting : isQuote quote = true) : quote ≠ '\\' := by
  rintro rfl
  cases quoting

/-- The state inside a quoted text at a depth. -/
private abbrev within (quote : Char) (depth : Int) : ScanState :=
  { depth := depth, quote := some quote }

private theorem step_opening (quoting : isQuote quote = true) (depth : Int) :
    (level depth).step quote = within quote depth := by
  simp [step, quoting]

private theorem step_closing (quoting : isQuote quote = true) (depth : Int) :
    (within quote depth).step quote = level depth := by
  simp [step, ne_backslash_of_isQuote quoting]

private theorem step_inner {c : Char} (inner : c ≠ quote ∧ c ≠ '\\') (depth : Int) :
    (within quote depth).step c = within quote depth := by
  simp [step, inner]

private theorem run_escaped (quote c : Char) (rest : List Char) (depth : Int) :
    (within quote depth).run ('\\' :: c :: rest) = (within quote depth).run rest := by
  simp [run, step]

theorem exists_enclosed (quoting : isQuote quote = true) (depth : Int) : ∀ text : List Char,
    ((within quote depth).run text).quote = none → ∃ content rest,
      text = content ++ quote :: rest ∧ Enclosed quote content ∧
        ((level depth).run rest).quote = none
  | [], closed => by cases closed
  | [c], closed => by
    by_cases closes : c = quote
    · exact ⟨[], [], by rw [closes]; rfl, .nil, rfl⟩
    · by_cases escapes : c = '\\'
      · subst escapes
        cases closed
      · rw [run, List.foldl_cons, step_inner ⟨closes, escapes⟩] at closed
        cases closed
  | c :: d :: rest, closed => by
    by_cases closes : c = quote
    · subst closes
      rw [run, List.foldl_cons, step_closing quoting] at closed
      exact ⟨[], d :: rest, rfl, .nil, closed⟩
    · by_cases escapes : c = '\\'
      · subst escapes
        rw [run_escaped] at closed
        obtain ⟨content, others, rfl, enclosed, outside⟩ :=
          exists_enclosed quoting depth rest closed
        exact ⟨_, others, rfl, .escaped enclosed, outside⟩
      · rw [run, List.foldl_cons, step_inner ⟨closes, escapes⟩] at closed
        obtain ⟨content, others, split, enclosed, outside⟩ :=
          exists_enclosed quoting depth (d :: rest) closed
        exact ⟨c :: content, others, by rw [split]; rfl, .plain ⟨closes, escapes⟩ enclosed, outside⟩

theorem Enclosed.run_eq (enclosed : Enclosed quote content) (depth : Int) :
    (within quote depth).run content = within quote depth := by
  induction enclosed with
  | nil => rfl
  | plain inner more ih => rwa [run, List.foldl_cons, step_inner inner]
  | escaped more ih => rwa [run_escaped]

/-- A scan stays inside quotes all through enclosed content. -/
theorem Enclosed.quote_run_take (enclosed : Enclosed quote content) (depth : Int) (count : Nat) :
    ((within quote depth).run (content.take count)).quote = some quote := by
  induction enclosed generalizing count with
  | nil => rw [List.take_nil]; rfl
  | plain inner more ih =>
    cases count with
    | zero => rfl
    | succ count =>
      rw [List.take_succ_cons, run, List.foldl_cons, step_inner inner]
      exact ih count
  | escaped more ih =>
    rcases count with _ | _ | count
    · rfl
    · rfl
    · rw [List.take_succ_cons, List.take_succ_cons, run_escaped]
      exact ih count

/-- A text that closes its quotes is made up of characters outside quotes and of quoted texts. -/
theorem quoting_of_closed (text : List Char) (depth : Int)
    (closed : ((level depth).run text).quote = none) : Quoting text := by
  induction size : text.length using Nat.strongRecOn generalizing text depth with
  | ind size ih =>
    cases text with
    | nil => exact .nil
    | cons c rest =>
      rw [run, List.foldl_cons, ← run] at closed
      cases quoting : isQuote c with
      | false =>
        have next : ∃ after, (level depth).step c = level after := by
          unfold step
          simp only [quoting]
          grind
        obtain ⟨after, reached⟩ := next
        rw [reached] at closed
        exact .plain quoting (ih rest.length (by rw [← size]; simp) rest after closed rfl)
      | true =>
        rw [step_opening quoting] at closed
        obtain ⟨content, others, rfl, enclosed, outside⟩ :=
          exists_enclosed quoting depth rest closed
        have more : Quoting others := by
          refine ih others.length ?_ others depth outside rfl
          rw [← size, List.length_cons, List.length_append, List.length_cons]
          omega
        have split : c :: (content ++ c :: others) = (c :: content ++ [c]) ++ others := by simp
        rw [split]
        exact .quoted quoting enclosed more

theorem endsOutside_unquoted {c : Char} (unquoting : isQuote c = false) : EndsOutside [c] := by
  unfold EndsOutside run
  simp only [List.foldl_cons, List.foldl_nil, step, unquoting]
  grind

theorem endsOutside_quoted (quoting : isQuote quote = true) (enclosed : Enclosed quote content) :
    EndsOutside (quote :: content ++ [quote]) := by
  rw [EndsOutside, List.cons_append, run, List.foldl_cons, step_opening quoting, ← run, run_append,
    enclosed.run_eq, run, List.foldl_cons, step_closing quoting]
  rfl

/-- What stands before a text and closes its own quotes does not matter to the quotes of the
text. -/
theorem quoteBehind_append (outside : EndsOutside front) (back : List Char) :
    quoteBehind (front ++ back) = quoteBehind back := by
  rw [quoteBehind, run_append, outside.run_eq, level_eq_deeper, run_deeper]
  rfl

theorem quotedAt_append_iff (outside : EndsOutside front) :
    QuotedAt (front ++ rest) quote (front.length + start) (front.length + stop) ↔
      QuotedAt rest quote start stop := by
  have shown (index : Nat) : (front ++ rest)[front.length + index]? = rest[index]? := by
    rw [List.getElem?_append_right (Nat.le_add_right ..), Nat.add_sub_cancel_left]
  have state (index : Nat) : quoteBehind ((front ++ rest).take (front.length + index)) =
      quoteBehind (rest.take index) := by
    rw [List.take_length_add_append, quoteBehind_append outside]
  have last (closed : start + 1 < stop) : front.length + stop - 1 = front.length + (stop - 1) := by
    omega
  constructor
  · rintro ⟨opening, quoting, before, inside, ⟨later, closing⟩, behind⟩
    have closed : start + 1 < stop := by omega
    rw [last closed, shown] at closing
    refine ⟨shown start ▸ opening, quoting, state start ▸ before, ?_, ⟨closed, closing⟩,
      state stop ▸ behind⟩
    intro index above below
    rw [← state]
    exact inside _ (by omega) (by omega)
  · rintro ⟨opening, quoting, before, inside, ⟨closed, closing⟩, behind⟩
    refine ⟨shown start ▸ opening, quoting, (state start).symm ▸ before, ?_, ⟨by omega, ?_⟩,
      (state stop).symm ▸ behind⟩
    · intro index above below
      obtain ⟨own, rfl⟩ :=
        Nat.exists_eq_add_of_le (Nat.le_trans (Nat.le_add_right ..) (Nat.le_of_lt above))
      rw [state]
      exact inside own (by omega) (by omega)
    · rw [last closed, shown, closing]

/-- A line that begins with a quoted text has no other one that begins inside it. -/
theorem quotedAt_front_iff (quoting : isQuote quote = true) (enclosed : Enclosed quote content)
    {other : Char} (early : start < content.length + 2) :
    QuotedAt (quote :: content ++ [quote] ++ rest) other start stop ↔
      other = quote ∧ start = 0 ∧ stop = content.length + 2 := by
  have within_ (index : Nat) (above : 0 < index) (below : index < content.length + 2) :
      quoteBehind ((quote :: content ++ [quote] ++ rest).take index) = some quote := by
    obtain ⟨count, rfl⟩ := Nat.exists_eq_add_of_lt above
    have kept : (quote :: content ++ [quote] ++ rest).take (0 + count + 1) =
        quote :: content.take count := by
      rw [List.cons_append, List.cons_append, List.take_succ_cons, List.append_assoc,
        List.take_append_of_le_length (by omega), Nat.zero_add]
    rw [kept, quoteBehind, run, List.foldl_cons, step_opening quoting]
    exact enclosed.quote_run_take 0 count
  have behind : quoteBehind ((quote :: content ++ [quote] ++ rest).take (content.length + 2)) =
      none := by
    have whole : (quote :: content ++ [quote] ++ rest).take (content.length + 2) =
        quote :: content ++ [quote] := List.take_left' (by simp)
    rw [whole]
    exact endsOutside_quoted quoting enclosed
  constructor
  · intro found
    have first : start = 0 := by
      by_cases later : 0 < start
      · have := found.before.symm.trans (within_ start later early)
        cases this
      · omega
    subst first
    have same : quote = other := Option.some.inj found.opening
    refine ⟨same.symm, rfl, ?_⟩
    rcases Nat.lt_trichotomy stop (content.length + 2) with short | exact_ | long
    · have := found.behind.symm.trans (within_ stop (by have := found.closing.1; omega) short)
      cases this
    · exact exact_
    · have := behind.symm.trans (found.inside _ (by omega) long)
      cases this
  · rintro ⟨rfl, rfl, rfl⟩
    refine ⟨rfl, quoting, rfl, within_, ⟨by omega, ?_⟩, behind⟩
    simp

theorem not_quotedAt_zero {c : Char} (unquoting : isQuote c = false) :
    ¬QuotedAt (c :: rest) quote 0 stop := by
  intro found
  have same : c = quote := Option.some.inj found.opening
  rw [same, found.quoting] at unquoting
  cases unquoting

/-- Whether each character of a text is quoted. -/
def quotedFlags (text : List Char) : List Bool :=
  (scan text).map Mark.quoted

theorem quotedFlags_append (outside : EndsOutside front) (back : List Char) :
    quotedFlags (front ++ back) = quotedFlags front ++ quotedFlags back := by
  rw [quotedFlags, scan, marks_append, outside.run_eq, marks_level (bracketDepth front),
    List.map_append, List.map_map]
  rfl

theorem quotedFlags_unquoted {c : Char} (unquoting : isQuote c = false) :
    quotedFlags [c] = [false] := by
  simp [quotedFlags, scan, marks, ScanState.mark, unquoting]

theorem Enclosed.quoted_marks (enclosed : Enclosed quote content) (depth : Int) :
    ((within quote depth).marks content).map Mark.quoted = List.replicate content.length true := by
  induction enclosed with
  | nil => rfl
  | plain inner more ih =>
    rw [marks, List.map_cons, step_inner inner, ih]
    rfl
  | @escaped c rest more ih =>
    have passed : (within quote depth).marks ('\\' :: c :: rest) =
        (within quote depth).mark '\\' :: ((within quote depth).step '\\').mark c ::
          (within quote depth).marks rest := by
      simp [marks, step]
    rw [passed, List.map_cons, List.map_cons, ih]
    rfl

theorem quotedFlags_quoted (quoting : isQuote quote = true) (enclosed : Enclosed quote content) :
    quotedFlags (quote :: content ++ [quote]) = List.replicate (content.length + 2) true := by
  have opened : (level 0).mark quote = ⟨quote, 0, true⟩ := by
    simp [ScanState.mark, step_opening quoting, quoting]
  have closed : ((within quote 0).mark quote).quoted = true := rfl
  rw [quotedFlags, scan, List.cons_append, marks, step_opening quoting, marks_append,
    enclosed.run_eq, List.map_cons, List.map_append, enclosed.quoted_marks, marks, marks,
    List.map_singleton, closed, opened, ← List.replicate_succ', ← List.replicate_succ]

end PinBudget.Source
