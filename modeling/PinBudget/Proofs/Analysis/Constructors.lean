import PinBudget.Estimate.Memory
import PinBudget.Proofs.Usage.Call

/-!
Where the constructor of a class ends in a text. The pattern that finds constructions of peripherals
also reads the variable that one is assigned to, and the pattern that finds constructed objects
reads any class; still each of them meets every constructor of a peripheral once, and ends with it.
-/
namespace PinBudget

open Source

variable {name word front rest text : List Char} {before other : Option Char} {offset : Nat}

/-- The construction of an object is a whole word and the call of its constructor. -/
theorem LineMemory.construction_eq_some_iff :
    LineMemory.construction before text = some (name, rest) ↔
      before.any Text.isWord = false ∧ name ≠ [] ∧ (∀ c ∈ name, Text.isWord c = true) ∧
        rest.head?.any Text.isWord = false ∧ text = name ++ (".new".toList ++ rest) := by
  constructor
  · intro found
    unfold LineMemory.construction at found
    obtain ⟨edge, found⟩ := Option.ite_none_right_eq_some.mp found
    cases taken : Text.spanWord text with
    | mk own behind =>
      obtain ⟨inside, _, rfl⟩ := Text.spanWord_eq_iff.mp taken
      simp only [taken] at found
      obtain ⟨shown, found⟩ := Option.ite_none_left_eq_some.mp found
      have begun : own ≠ [] := by simpa using shown
      split at found
      · rename_i rest' called
        obtain ⟨ends, same⟩ := Option.ite_none_left_eq_some.mp found
        cases same
        obtain rfl := after?_eq_some_iff.mp called
        exact ⟨(Text.atWordEdge_word begun inside).mp edge, begun, inside, by simpa using ends, rfl⟩
      · cases found
  · rintro ⟨edge, begun, inside, ends, rfl⟩
    have taken : Text.spanWord (name ++ (".new".toList ++ rest)) = (name, ".new".toList ++ rest) :=
      Text.spanWord_eq_iff.mpr ⟨inside, rfl, rfl⟩
    have called : after? ".new".toList (".new".toList ++ rest) = some rest :=
      after?_eq_some_iff.mpr rfl
    rw [LineMemory.construction, if_pos ((Text.atWordEdge_word begun inside).mpr edge), taken]
    simp only [List.isEmpty_eq_false_iff.mpr begun, called, ends, Bool.false_eq_true, ↓reduceIte]

/-- Whether a constructor of the class begins here. -/
def constructs (name : List Char) (before : Option Char) (text : List Char) : Bool :=
  (LineMemory.construction before text).any fun found => found.1 == name

theorem constructs_iff :
    constructs name before text = true ↔
      before.any Text.isWord = false ∧ name ≠ [] ∧ (∀ c ∈ name, Text.isWord c = true) ∧
        ∃ rest : List Char, rest.head?.any Text.isWord = false ∧
          text = name ++ (".new".toList ++ rest) := by
  constructor
  · intro begins
    unfold constructs at begins
    obtain ⟨⟨own, rest⟩, found⟩ := Option.isSome_iff_exists.mp (Option.isSome_of_any begins)
    obtain rfl : own = name := by simpa [found] using begins
    obtain ⟨edge, shown, inside, ends, rfl⟩ := LineMemory.construction_eq_some_iff.mp found
    exact ⟨edge, shown, inside, rest, ends, rfl⟩
  · rintro ⟨edge, shown, inside, rest, ends, rfl⟩
    rw [constructs, LineMemory.construction_eq_some_iff.mpr ⟨edge, shown, inside, ends, rfl⟩]
    simp

theorem constructs_inside (inside : before.any Text.isWord = true) :
    constructs name before text = false := by
  rw [Bool.eq_false_iff]
  intro begins
  obtain ⟨edge, _⟩ := constructs_iff.mp begins
  rw [inside] at edge
  cases edge

theorem constructs_outside (outside : text.head?.any Text.isWord = false) :
    constructs name before text = false := by
  rw [Bool.eq_false_iff]
  intro begins
  obtain ⟨_, shown, inside, rest, _, rfl⟩ := constructs_iff.mp begins
  obtain ⟨c, others, rfl⟩ := List.exists_cons_of_ne_nil shown
  have word := inside c (List.mem_cons_self ..)
  simp [word] at outside

/-- Where a word stands, no class but the word itself is constructed. -/
theorem constructs_word (shown : word ≠ []) (inside : ∀ c ∈ word, Text.isWord c = true)
    (ends : rest.head?.any Text.isWord = false) :
    constructs name before (word ++ rest) = true ↔
      before.any Text.isWord = false ∧ word = name ∧ ∃ behind : List Char,
        behind.head?.any Text.isWord = false ∧ rest = ".new".toList ++ behind := by
  rw [constructs_iff]
  constructor
  · rintro ⟨edge, _, insideName, behind, endsBehind, same⟩
    have stops : (".new".toList ++ behind).head?.any Text.isWord = false := rfl
    have own := Text.spanWord_eq_iff.mpr ⟨inside, ends, rfl⟩
    rw [same, Text.spanWord_eq_iff.mpr ⟨insideName, stops, rfl⟩, Prod.mk.injEq] at own
    exact ⟨edge, own.1.symm, behind, endsBehind, own.2.symm⟩
  · rintro ⟨edge, rfl, behind, endsBehind, rfl⟩
    exact ⟨edge, shown, inside, behind, endsBehind, rfl⟩

theorem constructs_congr (same : before.any Text.isWord = other.any Text.isWord) :
    constructs name before text = constructs name other text := by
  rw [Bool.eq_iff_iff, constructs_iff, constructs_iff, same]

/-- A space ends all words, so what stands behind it is not looked at. -/
theorem constructs_join (more : List Char) :
    constructs name before (text ++ ' ' :: more) = constructs name before text := by
  rw [Bool.eq_iff_iff, constructs_iff, constructs_iff]
  refine and_congr_right fun _ => and_congr_right fun _ => and_congr_right fun inside => ?_
  constructor
  · rintro ⟨rest, ends, same⟩
    rw [← List.append_assoc] at same
    rcases List.append_eq_append_iff.mp same with ⟨early, cut, tail⟩ | ⟨behind, rfl, tail⟩
    · -- The space is not part of the class and its call.
      cases early with
      | nil => exact ⟨[], rfl, by simpa using cut.symm⟩
      | cons c others =>
        obtain ⟨rfl, _⟩ := List.cons.inj tail
        have member : ' ' ∈ name ++ ".new".toList := cut ▸ by simp
        rcases List.mem_append.mp member with word | call
        · exact absurd (inside _ word) (by decide)
        · exact absurd call (by decide)
    · refine ⟨behind, ?_, List.append_assoc ..⟩
      cases behind with
      | nil => rfl
      | cons c others =>
        rw [tail] at ends
        exact ends
  · rintro ⟨rest, ends, rfl⟩
    refine ⟨rest ++ ' ' :: more, ?_, by simp⟩
    cases rest with
    | nil => rfl
    | cons c others => exact ends

/-- Where the constructors of a class end in a text that begins at an offset. -/
def endsFrom (name : List Char) (before : Option Char) (offset : Nat) : List Char → List Nat
  | [] => []
  | c :: rest =>
    let later := endsFrom name (some c) (offset + 1) rest
    if constructs name before (c :: rest) then (offset + (name.length + 4)) :: later else later

theorem endsFrom_cons_of_not {c : Char} (none : constructs name before (c :: rest) = false) :
    endsFrom name before offset (c :: rest) = endsFrom name (some c) (offset + 1) rest := by
  rw [endsFrom, none]
  rfl

theorem endsFrom_congr (same : before.any Text.isWord = other.any Text.isWord) :
    endsFrom name before offset text = endsFrom name other offset text := by
  cases text with
  | nil => rfl
  | cons c rest => rw [endsFrom, endsFrom, constructs_congr same]

/-- No constructor begins in what holds no word, so it is passed over. -/
theorem endsFrom_between (apart : ∀ c ∈ front, Text.isWord c = false) (shown : front ≠ []) :
    endsFrom name before offset (front ++ rest) =
      endsFrom name none (offset + front.length) rest := by
  induction front generalizing before offset with
  | nil => exact absurd rfl shown
  | cons c others ih =>
    have outside : Text.isWord c = false := apart c (List.mem_cons_self ..)
    have further := fun d member => apart d (List.mem_cons_of_mem _ member)
    have none_ : constructs name before (c :: (others ++ rest)) = false :=
      constructs_outside (by simpa using outside)
    rw [List.cons_append, endsFrom_cons_of_not none_]
    cases others with
    | nil => exact endsFrom_congr (by simpa using outside)
    | cons d others =>
      rw [ih further (List.cons_ne_nil d others), List.length_cons (a := c), Nat.add_assoc,
        Nat.add_comm 1]

theorem endsFrom_word (inside : ∀ c ∈ word, Text.isWord c = true) (shown : word ≠ []) :
    endsFrom name before offset (word ++ rest) =
      (if constructs name before (word ++ rest) then [offset + (name.length + 4)] else []) ++
        endsFrom name (some 'w') (offset + word.length) rest := by
  have tail : ∀ (others : List Char) (c : Char) (offset : Nat), Text.isWord c = true →
      (∀ d ∈ others, Text.isWord d = true) →
        endsFrom name (some c) offset (others ++ rest) =
          endsFrom name (some 'w') (offset + others.length) rest := by
    intro others
    induction others with
    | nil => exact fun c offset own _ => endsFrom_congr (by rw [Option.any_some, own]; rfl)
    | cons d others ih =>
      intro c offset own all
      have head := all d (List.mem_cons_self ..)
      have none_ : constructs name (some c) (d :: (others ++ rest)) = false :=
        constructs_inside (by simpa using own)
      rw [List.cons_append, endsFrom_cons_of_not none_,
        ih d (offset + 1) head fun e member => all e (List.mem_cons_of_mem _ member),
        List.length_cons, Nat.add_right_comm, Nat.add_assoc]
  obtain ⟨c, others, rfl⟩ := List.exists_cons_of_ne_nil shown
  obtain ⟨own, all⟩ := List.forall_mem_cons.mp inside
  rw [List.cons_append, endsFrom, tail others c (offset + 1) own all, List.length_cons,
    Nat.add_right_comm, Nat.add_assoc]
  cases constructs name before (c :: (others ++ rest)) <;> rfl

/-- A variable that is assigned something is no class, so it is passed over with its sigils. -/
theorem endsFrom_assigned {sigils : List Char} (apart : ∀ c ∈ sigils, Text.isWord c = false)
    (shown : word ≠ []) (inside : ∀ c ∈ word, Text.isWord c = true)
    (stops : rest.head?.any Text.isWord = false) (notPoint : rest.head? ≠ some '.') :
    endsFrom name before offset (sigils ++ (word ++ rest)) =
      endsFrom name (some 'w') (offset + sigils.length + word.length) rest := by
  have plain (before : Option Char) : constructs name before (word ++ rest) = false := by
    rw [Bool.eq_false_iff]
    intro begins
    obtain ⟨_, _, behind, _, called⟩ := (constructs_word shown inside stops).mp begins
    exact notPoint (called ▸ rfl)
  have passed (before : Option Char) (offset : Nat) : endsFrom name before offset (word ++ rest) =
      endsFrom name (some 'w') (offset + word.length) rest := by
    rw [endsFrom_word inside shown, plain]
    rfl
  by_cases none_ : sigils = []
  · subst none_
    exact passed before offset
  · rw [endsFrom_between apart none_, passed]

theorem mem_endsFrom {stop : Nat} : stop ∈ endsFrom name before offset text ↔
    ∃ front rest, text = front ++ rest ∧
      constructs name (front.getLast?.or before) rest = true ∧
      stop = offset + front.length + (name.length + 4) := by
  induction text generalizing before offset with
  | nil =>
    refine iff_of_false List.not_mem_nil ?_
    rintro ⟨front, rest, none_, begins, _⟩
    obtain ⟨rfl, rfl⟩ := List.append_eq_nil_iff.mp none_.symm
    rw [constructs_outside rfl] at begins
    cases begins
  | cons c text ih =>
    have first : stop ∈ endsFrom name before offset (c :: text) ↔
        constructs name before (c :: text) = true ∧ stop = offset + (name.length + 4) ∨
          stop ∈ endsFrom name (some c) (offset + 1) text := by
      rw [endsFrom]
      cases constructs name before (c :: text) <;> simp
    have last (front : List Char) :
        (c :: front).getLast?.or before = front.getLast?.or (some c) := by
      rw [List.getLast?_cons, ← Option.or_some, Option.or_assoc, Option.some_or]
    rw [first, ih]
    constructor
    · rintro (⟨begins, rfl⟩ | ⟨front, rest, rfl, begins, rfl⟩)
      · exact ⟨[], c :: text, rfl, begins, rfl⟩
      · refine ⟨c :: front, rest, rfl, (last front).symm ▸ begins, ?_⟩
        rw [List.length_cons]
        omega
    · rintro ⟨front, rest, same, begins, rfl⟩
      cases front with
      | nil =>
        obtain rfl := same
        exact .inl ⟨begins, rfl⟩
      | cons d front =>
        obtain ⟨rfl, rfl⟩ := List.cons.inj same
        refine .inr ⟨front, rest, rfl, last front ▸ begins, ?_⟩
        rw [List.length_cons]
        omega

/-- How often a text constructs the class does not depend on where the text begins. -/
theorem length_endsFrom (name text : List Char) (before : Option Char) (offset : Nat) :
    (endsFrom name before offset text).length = (endsFrom name before 0 text).length := by
  induction text generalizing before offset with
  | nil => rfl
  | cons c rest ih =>
    have later := (ih (some c) (offset + 1)).trans (ih (some c) (0 + 1)).symm
    rw [endsFrom, endsFrom]
    cases constructs name before (c :: rest) with
    | true => exact congrArg Nat.succ later
    | false => exact later

theorem endsFrom_join (more : List Char) :
    endsFrom name before offset (text ++ ' ' :: more) =
      endsFrom name before offset text ++ endsFrom name none (offset + text.length + 1) more := by
  induction text generalizing before offset with
  | nil =>
    have apart : ∀ c ∈ [' '], Text.isWord c = false := List.forall_mem_singleton.mpr (by decide)
    exact endsFrom_between apart (List.cons_ne_nil _ _)
  | cons c rest ih =>
    rw [List.cons_append, endsFrom, endsFrom, ← List.cons_append, constructs_join, ih,
      List.length_cons]
    cases constructs name before (c :: rest) with
    | true => simp [Nat.add_assoc, Nat.add_comm 1]
    | false => simp [Nat.add_assoc, Nat.add_comm 1]

section Constructed

variable (notCall : name ≠ "new".toList)

include notCall

theorem endsFrom_call (ends : rest.head?.any Text.isWord = false) :
    endsFrom name before offset (".new".toList ++ rest) =
      endsFrom name (some 'w') (offset + 4) rest := by
  have apart : ∀ c ∈ ['.'], Text.isWord c = false := List.forall_mem_singleton.mpr (by decide)
  have inside : ∀ c ∈ "new".toList, Text.isWord c = true := List.all_eq_true.mp (by decide)
  have none_ : constructs name none ("new".toList ++ rest) = false := by
    rw [Bool.eq_false_iff]
    intro begins
    exact notCall ((constructs_word (by decide) inside ends).mp begins).2.1.symm
  have split : ".new".toList ++ rest = ['.'] ++ ("new".toList ++ rest) := rfl
  rw [split, endsFrom_between apart (List.cons_ne_nil '.' []),
    endsFrom_word inside (by decide), none_]
  rfl

/-- Where a class is constructed, a constructor of the class ends, and nothing else begins. -/
theorem endsFrom_constructed (edge : before.any Text.isWord = false) (shown : word ≠ [])
    (inside : ∀ c ∈ word, Text.isWord c = true) (ends : rest.head?.any Text.isWord = false) :
    endsFrom name before offset (word ++ (".new".toList ++ rest)) =
      (if word == name then [offset + (word.length + 4)] else []) ++
        endsFrom name (some 'w') (offset + (word.length + 4)) rest := by
  have begins : constructs name before (word ++ (".new".toList ++ rest)) = (word == name) := by
    rw [Bool.eq_iff_iff, constructs_word shown inside rfl, and_iff_right edge, beq_iff_eq]
    exact and_iff_left ⟨rest, ends, rfl⟩
  rw [endsFrom_word inside shown, begins, endsFrom_call notCall ends, Nat.add_assoc]
  cases same : word == name with
  | true => rw [beq_iff_eq.mp same]
  | false => rfl

end Constructed

/-- The pattern meets every constructor of the class once: what it matches ends with the call of a
constructor, and no other constructor of the class begins in it. -/
structure MeetsOnce {α : Type} (name : List Char) (pattern : Pattern α) (counted : α → Bool) :
    Prop where
  met : ∀ before text value rest, pattern before text = some (value, rest) →
    ∃ front, text = front ++ (".new".toList ++ rest) ∧ ∀ offset,
      endsFrom name before offset text =
        (if counted value then [offset + (front.length + 4)] else []) ++
          endsFrom name (some 'w') (offset + (front.length + 4)) rest
  missed : ∀ before text, pattern before text = none → constructs name before text = false

/-- The occurrences that count end where the constructors of the class end. -/
theorem MeetsOnce.stops {α : Type} {pattern : Pattern α} {counted : α → Bool}
    (meets : MeetsOnce name pattern counted) :
    ((occurrencesFrom pattern before offset text).filter fun found => counted found.value).map
      Found.stop = endsFrom name before offset text := by
  fun_induction occurrencesFrom pattern before offset text with
  | case1 => rfl
  | case2 before offset c rest none_ ih =>
    rw [endsFrom_cons_of_not (meets.missed before _ none_), ih]
  | case3 before offset c rest value after found size ih =>
    obtain ⟨front, whole, own⟩ := meets.met before _ value after found
    have length : rest.length + 1 = front.length + 4 + after.length := by
      have counted := congrArg List.length whole
      simp only [List.length_cons, List.length_append] at counted
      exact counted.trans (by rw [Nat.add_assoc]; rfl)
    have places : size = front.length + 4 := by omega
    have left : rest.drop (size - 1) = after := by
      rw [places, Nat.add_sub_assoc (by omega), ← List.drop_succ_cons (a := c), whole,
        ← List.append_assoc]
      exact List.drop_left' (List.length_append ..)
    have last : (c :: rest)[size - 1]? = some 'w' := by
      rw [places, Nat.add_sub_assoc (by omega), whole, List.getElem?_append_right (by omega),
        Nat.add_sub_cancel_left]
      rfl
    rw [left, last, places] at ih
    rw [own, ← ih, left, last, places, List.filter_cons]
    cases counted value <;> rfl

theorem meetsOnce_objects (notCall : name ≠ "new".toList) :
    MeetsOnce name LineMemory.construction (· == name) where
  met := by
    intro before text value rest found
    obtain ⟨edge, shown, inside, ends, rfl⟩ := LineMemory.construction_eq_some_iff.mp found
    exact ⟨value, rfl, fun offset => endsFrom_constructed notCall edge shown inside ends⟩
  missed := by
    intro before text none_
    rw [constructs, none_]
    rfl

namespace Usage

variable {kind : Kind}

theorem isWord_of_mem_name (kind : Kind) : ∀ c ∈ kind.name.toList, Text.isWord c = true :=
  List.all_eq_true.mp (by cases kind <;> decide)

theorem constructor?_eq_some_iff :
    constructor? text = some (kind, rest) ↔
      rest.head?.any Text.isWord = false ∧ text = kind.name.toList ++ (".new".toList ++ rest) := by
  constructor
  · intro found
    obtain ⟨other, _, own⟩ := List.exists_of_findSome?_eq_some found
    split at own
    · rename_i behind called
      obtain ⟨ends, same⟩ := Option.ite_none_left_eq_some.mp own
      cases same
      refine ⟨by simpa using ends, ?_⟩
      rw [after?_eq_some_iff.mp called, List.append_assoc]
    · cases own
  · rintro ⟨ends, rfl⟩
    exact constructor?_append kind ends

/-- A constructor that is assigned stands behind a word and what sets the two apart. -/
theorem exists_of_boundConstructor? {holder : List Char}
    (found : boundConstructor? text = some ((holder, kind), rest)) :
    ∃ sigils word between : List Char,
      text = sigils ++ (word ++ (between ++ (kind.name.toList ++ (".new".toList ++ rest)))) ∧
      (∀ c ∈ sigils, Text.isWord c = false) ∧ word ≠ [] ∧ (∀ c ∈ word, Text.isWord c = true) ∧
      between ≠ [] ∧ (∀ c ∈ between, Text.isWord c = false) ∧ between.head? ≠ some '.' ∧
      rest.head?.any Text.isWord = false := by
  unfold boundConstructor? at found
  split at found
  · cases found
  · rename_i behind variable_
    obtain ⟨sigils, word, rfl, apart, shown, inside, _⟩ := exists_of_behindVariable? variable_
    split at found
    · rename_i right equals
      obtain ⟨⟨other, after⟩, constructed, same⟩ := Option.map_eq_some_iff.mp found
      cases same
      obtain ⟨ends, whole⟩ := constructor?_eq_some_iff.mp constructed
      obtain ⟨blanks, blank, split⟩ := Text.exists_trimLeft behind
      obtain ⟨more, blankMore, splitRight⟩ := Text.exists_trimLeft right
      refine ⟨sigils, word, blanks ++ '=' :: more, ?_, apart, shown, inside, ?_, ?_, ?_, ends⟩
      · rw [split, equals, splitRight, whole]
        simp
      · exact List.append_ne_nil_of_right_ne_nil _ (List.cons_ne_nil _ _)
      · intro c member
        rcases List.mem_append.mp member with early | late
        · exact Text.isWord_of_isBlank (blank c early)
        · rcases List.mem_cons.mp late with rfl | late
          · decide
          · exact Text.isWord_of_isBlank (blankMore c late)
      · cases blanks with
        | nil => simp
        | cons c others =>
          intro first
          cases first
          exact absurd (blank '.' (List.mem_cons_self ..)) (by decide)
    · cases found

theorem meetsOnce_constructions (kind : Kind) :
    MeetsOnce kind.name.toList construction (·.2 == kind) where
  met := by
    have notCall : kind.name.toList ≠ "new".toList := by cases kind <;> decide
    have named (other : Kind) : (other.name.toList == kind.name.toList) = (other == kind) := by
      cases kind <;> cases other <;> decide
    have shownName (other : Kind) : other.name.toList ≠ [] := by cases other <;> decide
    intro before text value rest found
    unfold construction at found
    split at found
    · rename_i bound
      cases found
      rename_i holder other
      obtain ⟨sigils, word, between, rfl, apart, shown, inside, some_, outside, notPoint, ends⟩ :=
        exists_of_boundConstructor? bound
      refine ⟨sigils ++ (word ++ (between ++ other.name.toList)), by simp, fun offset => ?_⟩
      have stops (tail : List Char) : (between ++ tail).head?.any Text.isWord = false ∧
          (between ++ tail).head? ≠ some '.' := by
        obtain ⟨c, others, rfl⟩ := List.exists_cons_of_ne_nil some_
        exact ⟨by simpa using outside c (List.mem_cons_self ..), notPoint⟩
      rw [endsFrom_assigned apart shown inside (stops _).1 (stops _).2,
        endsFrom_between outside some_, endsFrom_constructed notCall rfl (shownName other)
          (isWord_of_mem_name other) ends, named]
      simp only [List.length_append, Nat.add_assoc]
    · obtain ⟨edge, found⟩ := Option.ite_none_right_eq_some.mp found
      obtain ⟨⟨other, after⟩, constructed, same⟩ := Option.map_eq_some_iff.mp found
      cases same
      obtain ⟨ends, rfl⟩ := constructor?_eq_some_iff.mp constructed
      have free := (Text.atWordEdge_word (shownName other) (isWord_of_mem_name other)).mp edge
      refine ⟨other.name.toList, rfl, fun offset => ?_⟩
      rw [endsFrom_constructed notCall free (shownName other) (isWord_of_mem_name other) ends,
        named]
  missed := by
    intro before text none_
    rw [Bool.eq_false_iff]
    intro begins
    obtain ⟨edge, shown, inside, rest, ends, rfl⟩ := constructs_iff.mp begins
    unfold construction at none_
    split at none_
    · cases none_
    · rw [if_pos ((Text.atWordEdge_word shown inside).mpr edge), constructor?_append kind ends]
        at none_
      cases none_

end Usage

end PinBudget
