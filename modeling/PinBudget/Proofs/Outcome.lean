import PinBudget.Fault

/-!
Passes over lists that can meet a fault: what a pass gives if no item fails, which item a fault
comes from, and that one failing item is enough.
-/
namespace PinBudget

variable {α β σ : Type} {step : α → Except Fault β} {items : List α} {item : α} {fault : Fault}

theorem map_eq_error {outcome : Except Fault α} {change : α → β} :
    outcome.map change = .error fault ↔ outcome = .error fault := by
  cases outcome <;> simp [Except.map]

theorem map_eq_ok {outcome : Except Fault α} {change : α → β} {result : β} :
    outcome.map change = .ok result ↔ ∃ value, outcome = .ok value ∧ change value = result := by
  cases outcome <;> simp [Except.map]

theorem exists_ok_of_any {outcome : Except Fault α} {test : α → Bool}
    (passed : outcome.toOption.any test = true) :
    ∃ value, outcome = .ok value ∧ test value = true := by
  cases outcome with
  | ok value => exact ⟨value, rfl, passed⟩
  | error fault => cases passed

/-- Two steps in a row succeed if the first does, and the second on what the first gives. -/
theorem bind_eq_ok {outcome : Except Fault α} {next : α → Except Fault β} {result : β} :
    (outcome >>= next) = .ok result ↔ ∃ value, outcome = .ok value ∧ next value = .ok result := by
  cases outcome <;> simp [bind, Except.bind]

theorem mapM_eq_map {value : α → β} (each : ∀ item ∈ items, step item = .ok (value item)) :
    items.mapM step = .ok (items.map value) := by
  induction items with
  | nil => rfl
  | cons item rest ih =>
    rw [List.mapM_cons, each item (List.mem_cons_self ..),
      ih fun other member => each other (List.mem_cons_of_mem _ member)]
    rfl

theorem exists_error_of_mapM (failed : items.mapM step = .error fault) :
    ∃ item ∈ items, step item = .error fault := by
  induction items with
  | nil => cases failed
  | cons first rest ih =>
    rw [List.mapM_cons] at failed
    cases head : step first with
    | error cause =>
      rw [head] at failed
      cases failed
      exact ⟨first, List.mem_cons_self .., head⟩
    | ok value =>
      rw [head] at failed
      cases tail : rest.mapM step with
      | error cause =>
        rw [tail] at failed
        cases failed
        obtain ⟨item, member, own⟩ := ih tail
        exact ⟨item, List.mem_cons_of_mem _ member, own⟩
      | ok values =>
        rw [tail] at failed
        cases failed

theorem mapM_error_of_mem (member : item ∈ items) (failed : step item = .error fault) :
    ∃ cause, items.mapM step = .error cause := by
  induction items with
  | nil => cases member
  | cons first rest ih =>
    rw [List.mapM_cons]
    cases head : step first with
    | error cause => exact ⟨cause, rfl⟩
    | ok value =>
      rcases List.mem_cons.mp member with rfl | later
      · rw [head] at failed
        cases failed
      · obtain ⟨cause, own⟩ := ih later
        exact ⟨cause, by rw [own]; rfl⟩

theorem exists_ok_of_mapM {values : List β} (done : items.mapM step = .ok values)
    (member : item ∈ items) : ∃ value ∈ values, step item = .ok value := by
  induction items generalizing values with
  | nil => cases member
  | cons first rest ih =>
    rw [List.mapM_cons] at done
    obtain ⟨head, own, done⟩ := bind_eq_ok.mp done
    obtain ⟨tail, others, done⟩ := bind_eq_ok.mp done
    cases done
    rcases List.mem_cons.mp member with rfl | later
    · exact ⟨head, List.mem_cons_self .., own⟩
    · obtain ⟨value, inside, same⟩ := ih others later
      exact ⟨value, List.mem_cons_of_mem _ inside, same⟩

/-- All values of a pass have a property if whatever an item gives has it. -/
theorem forall_mem_of_mapM_iff {values : List β} {holds : β → Prop}
    (done : items.mapM step = .ok values) :
    (∀ value ∈ values, holds value) ↔
      ∀ item ∈ items, ∀ value, step item = .ok value → holds value := by
  induction items generalizing values with
  | nil =>
    cases done
    exact iff_of_true nofun nofun
  | cons first rest ih =>
    rw [List.mapM_cons] at done
    obtain ⟨head, own, done⟩ := bind_eq_ok.mp done
    obtain ⟨tail, others, done⟩ := bind_eq_ok.mp done
    cases done
    have single : holds head ↔ ∀ value, step first = .ok value → holds value :=
      ⟨fun held value same => by cases own.symm.trans same; exact held, fun each => each head own⟩
    rw [List.forall_mem_cons, List.forall_mem_cons, ih others, single]

theorem mapM_congr {other : α → Except Fault β}
    (each : ∀ item ∈ items, step item = other item) : items.mapM step = items.mapM other := by
  induction items with
  | nil => rfl
  | cons first rest ih =>
    rw [List.mapM_cons, List.mapM_cons, each first (List.mem_cons_self ..),
      ih fun item member => each item (List.mem_cons_of_mem _ member)]

/-- Two passes of which one does more with each item: where the second succeeds, the first does, and
its values become those of the second. -/
theorem mapM_eq_ok_iff {γ : Type} {more : α → Except Fault γ} {holds : β → Prop} {change : β → γ}
    (each : ∀ item ∈ items, ∀ result, more item = .ok result ↔
      ∃ value, step item = .ok value ∧ holds value ∧ change value = result) (results : List γ) :
    items.mapM more = .ok results ↔
      ∃ values, items.mapM step = .ok values ∧ (∀ value ∈ values, holds value) ∧
        values.map change = results := by
  induction items generalizing results with
  | nil =>
    constructor
    · rintro ⟨⟩
      exact ⟨[], rfl, nofun, rfl⟩
    · rintro ⟨values, done, -, rfl⟩
      cases done
      rfl
  | cons first rest ih =>
    have tail := ih fun item member => each item (List.mem_cons_of_mem _ member)
    simp only [List.mapM_cons, bind_eq_ok, each first (List.mem_cons_self ..), tail]
    constructor
    · rintro ⟨_, ⟨value, own, held, rfl⟩, _, ⟨values, others, kept, rfl⟩, done⟩
      cases done
      exact ⟨value :: values, ⟨value, own, values, others, rfl⟩,
        List.forall_mem_cons.mpr ⟨held, kept⟩, rfl⟩
    · rintro ⟨_, ⟨value, own, values, others, done⟩, kept, rfl⟩
      cases done
      obtain ⟨held, kept⟩ := List.forall_mem_cons.mp kept
      exact ⟨change value, ⟨value, own, held, rfl⟩, values.map change,
        ⟨values, others, kept, rfl⟩, rfl⟩

variable {fold : σ → α → Except Fault σ} {state : σ}

/-- A fold whose steps all succeed is the fold of their values. -/
theorem foldlM_eq_foldl {next : σ → α → σ}
    (each : ∀ before, ∀ item ∈ items, fold before item = .ok (next before item)) :
    items.foldlM fold state = .ok (items.foldl next state) := by
  induction items generalizing state with
  | nil => rfl
  | cons first rest ih =>
    rw [List.foldlM_cons, each state first (List.mem_cons_self ..), List.foldl_cons]
    exact ih fun before item member => each before item (List.mem_cons_of_mem _ member)

theorem foldlM_invariant {holds : σ → Prop} {reached : σ}
    (kept : ∀ before item after, holds before → fold before item = .ok after → holds after)
    (start : holds state) (done : items.foldlM fold state = .ok reached) : holds reached := by
  induction items generalizing state with
  | nil =>
    cases done
    exact start
  | cons first rest ih =>
    rw [List.foldlM_cons] at done
    obtain ⟨next, step, done⟩ := bind_eq_ok.mp done
    exact ih (kept state first next start step) done

theorem exists_error_of_foldlM (failed : items.foldlM fold state = .error fault) :
    ∃ item ∈ items, ∃ before, fold before item = .error fault := by
  induction items generalizing state with
  | nil => cases failed
  | cons first rest ih =>
    rw [List.foldlM_cons] at failed
    cases head : fold state first with
    | error cause =>
      rw [head] at failed
      cases failed
      exact ⟨first, List.mem_cons_self .., state, head⟩
    | ok next =>
      rw [head] at failed
      obtain ⟨item, member, own⟩ := ih failed
      exact ⟨item, List.mem_cons_of_mem _ member, own⟩

theorem exists_ok_of_foldlM
    (each : ∀ item ∈ items, ∀ before, ∃ next, fold before item = .ok next) (state : σ) :
    ∃ reached, items.foldlM fold state = .ok reached := by
  cases outcome : items.foldlM fold state with
  | ok reached => exact ⟨reached, rfl⟩
  | error fault =>
    obtain ⟨item, member, before, failed⟩ := exists_error_of_foldlM outcome
    obtain ⟨next, done⟩ := each item member before
    rw [done] at failed
    cases failed

theorem foldlM_error_of_mem (member : item ∈ items)
    (failed : ∀ before, fold before item = .error fault) :
    ∃ cause, items.foldlM fold state = .error cause := by
  induction items generalizing state with
  | nil => cases member
  | cons first rest ih =>
    rw [List.foldlM_cons]
    cases head : fold state first with
    | error cause => exact ⟨cause, rfl⟩
    | ok next =>
      rcases List.mem_cons.mp member with rfl | later
      · rw [failed] at head
        cases head
      · exact ih later

/-- The outcome is a value and no fault. -/
def Completes (outcome : Except Fault α) : Prop :=
  ∃ value, outcome = .ok value

section Completes

variable {outcome : Except Fault α} {next : α → Except Fault β} {value : α}

@[simp]
theorem completes_ok (value : α) : Completes (.ok value) :=
  ⟨value, rfl⟩

@[simp]
theorem completes_pure (value : α) : Completes (pure value) :=
  ⟨value, rfl⟩

@[simp]
theorem not_completes_error (fault : Fault) : ¬Completes (.error fault : Except Fault α) :=
  nofun

theorem isSome_toOption_iff : outcome.toOption.isSome = true ↔ Completes outcome := by
  cases outcome <;> simp [Except.toOption]

instance : Decidable (Completes outcome) :=
  decidable_of_iff _ isSome_toOption_iff

theorem completes_map_iff {change : α → β} :
    Completes (outcome.map change) ↔ Completes outcome := by
  cases outcome <;> simp [Except.map]

theorem completes_bind_iff :
    Completes (outcome >>= next) ↔ ∃ value, outcome = .ok value ∧ Completes (next value) := by
  cases outcome <;> simp [bind, Except.bind]

theorem completes_bind (done : outcome = .ok value) :
    Completes (outcome >>= next) ↔ Completes (next value) := by
  rw [done]
  rfl

/-- Where the second step fares alike on all values, both have to complete. -/
theorem completes_bind_of {after : Prop} (each : ∀ value, outcome = .ok value →
    (Completes (next value) ↔ after)) :
    Completes (outcome >>= next) ↔ Completes outcome ∧ after := by
  rw [completes_bind_iff]
  constructor
  · rintro ⟨value, done, more⟩
    exact ⟨⟨value, done⟩, (each value done).mp more⟩
  · rintro ⟨⟨value, done⟩, more⟩
    exact ⟨value, done, (each value done).mpr more⟩

theorem Completes.bind (done : Completes outcome) (each : ∀ value, Completes (next value)) :
    Completes (outcome >>= next) := by
  obtain ⟨value, same⟩ := done
  exact (completes_bind same).mpr (each value)

theorem completes_ite {condition : Prop} [Decidable condition] {first second : Except Fault α}
    (holds : Completes first) (fails : Completes second) :
    Completes (if condition then first else second) := by
  split
  · exact holds
  · exact fails

/-- Where the second step always completes, only the first one counts. -/
theorem completes_bind_always (each : ∀ value, outcome = .ok value → Completes (next value)) :
    Completes (outcome >>= next) ↔ Completes outcome := by
  rw [completes_bind_of fun value done => iff_true_intro (each value done), and_true]

theorem completes_mapM_iff :
    Completes (items.mapM step) ↔ ∀ item ∈ items, Completes (step item) := by
  induction items with
  | nil => simp
  | cons first rest ih =>
    rw [List.mapM_cons, List.forall_mem_cons, ← ih]
    refine completes_bind_of fun value _ => ?_
    exact completes_bind_always fun values _ => completes_pure _

theorem completes_foldlM_iff {holds : α → Prop}
    (each : ∀ item ∈ items, ∀ before, Completes (fold before item) ↔ holds item) (state : σ) :
    Completes (items.foldlM fold state) ↔ ∀ item ∈ items, holds item := by
  induction items generalizing state with
  | nil => simp
  | cons first rest ih =>
    obtain ⟨head, tail⟩ := List.forall_mem_cons.mp each
    rw [List.foldlM_cons, List.forall_mem_cons, ← head state]
    exact completes_bind_of fun next _ => ih tail next

end Completes

end PinBudget
