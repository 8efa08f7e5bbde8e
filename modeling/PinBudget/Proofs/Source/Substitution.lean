import PinBudget.Proofs.Source.Reading

/-!
Bindings as a substitution. Reading a text under bindings gives what reading it without them gives,
with each name that is bound replaced by the value of its right-hand side; names in right-hand sides
stay names. Only the bindings of names that the value has at its leaves play a part.
-/
namespace PinBudget

namespace Value

/-- A name stands in the value, inside so many lists. -/
inductive HasLeaf : Value → Nat → String → Prop where
  | name (name : String) : HasLeaf (.unresolved name) 0 name
  | item {items : List Value} {item : Value} {level : Nat} {name : String} (member : item ∈ items)
      (leaf : HasLeaf item level name) : HasLeaf (.list items) (level + 1) name

mutual

/-- The value with the names that stand for something replaced, inside lists too. -/
def substitute (stands : String → Option Value) : Value → Value
  | list items => list (substituteAll stands items)
  | unresolved name => (stands name).getD (unresolved name)
  | value => value

def substituteAll (stands : String → Option Value) : List Value → List Value
  | [] => []
  | item :: rest => item.substitute stands :: substituteAll stands rest

end

variable {stands : String → Option Value}

theorem substituteAll_eq_map (stands : String → Option Value) (items : List Value) :
    substituteAll stands items = items.map (substitute stands) := by
  induction items with
  | nil => rfl
  | cons item rest ih => rw [substituteAll, ih, List.map_cons]

theorem substitute_list (stands : String → Option Value) (items : List Value) :
    (list items).substitute stands = list (items.map (substitute stands)) := by
  rw [substitute, substituteAll_eq_map]

/-- A value that is neither a name nor a list, so that nothing can be replaced in it. -/
inductive Fixed : Value → Prop where
  | nil : Fixed .nil
  | bool (value : Bool) : Fixed (.bool value)
  | int (value : Int) : Fixed (.int value)
  | float (value : Float) : Fixed (.float value)
  | str (value : String) : Fixed (.str value)

theorem Fixed.not_hasLeaf {value : Value} (fixed : value.Fixed) (level : Nat) (name : String) :
    ¬value.HasLeaf level name := by
  rintro ⟨⟩ <;> cases fixed

theorem Fixed.substitute_eq {value : Value} (fixed : value.Fixed) :
    value.substitute stands = value := by
  cases fixed <;> rfl

end Value

namespace Source

variable {bindings other : Bindings} {text : List Char} {room more : Nat} {value plain : Value}
variable {fault : Fault}

theorem fixed_of_keyword (keyword : Literal.ofText text = .keyword value) : value.Fixed := by
  rw [Literal.ofText] at keyword
  cases found : shapes.findSome? fun shape => shape text with
  | none =>
    rw [found] at keyword
    cases keyword
  | some literal =>
    rw [found] at keyword
    cases keyword
    obtain ⟨shape, member, own⟩ := List.exists_of_findSome?_eq_some found
    simp only [shapes, List.mem_cons, List.not_mem_nil, or_false] at member
    rcases member with rfl | rfl | rfl | rfl | rfl | rfl | rfl | rfl
    · grind [integer?]
    · unfold hexadecimal? at own
      repeat' split at own
      all_goals cases own
    · grind [decimal?]
    · unfold quoted? at own
      repeat' split at own
      all_goals cases own
    · grind [list?]
    · unfold symbol? at own
      repeat' split at own
      all_goals cases own
    · unfold keyword? at own
      split at own
      · cases own
        exact .bool true
      · split at own
        · cases own
          exact .bool false
        · split at own
          · cases own
            exact .nil
          · cases own
    · grind [wholeName?]

/-- Reading a text gives a value in which there is nothing to replace, or reads the items of a list,
or asks what a name stands for. -/
theorem readWith_cases (text : List Char) :
    (∃ outcome, (∀ value, outcome = .ok value → value.Fixed) ∧
        ∀ resolve room, readWith resolve (room + 1) text = outcome) ∨
      (∃ items : List (List Char), ∀ resolve room, readWith resolve (room + 1) text =
        (items.mapM (readWith resolve room)).map Value.list) ∨
      ∃ name, ∀ resolve room, readWith resolve (room + 1) text = resolve room name := by
  cases shape : Literal.ofText (Text.trim text) with
  | list content => exact .inr (.inl ⟨_, fun resolve room => by rw [readWith, shape]⟩)
  | name name => exact .inr (.inr ⟨_, fun resolve room => by rw [readWith, shape]⟩)
  | integer negative digits =>
    refine .inl ⟨_, fun value read => ?_, fun resolve room => by rw [readWith, shape]⟩
    obtain ⟨number, _, rfl⟩ := map_eq_ok.mp read
    exact .int _
  | keyword own =>
    refine .inl ⟨_, fun value read => ?_, fun resolve room => by rw [readWith, shape]⟩
    cases read
    exact fixed_of_keyword shape
  | _ =>
    refine .inl ⟨_, fun value read => ?_, fun resolve room => by rw [readWith, shape]⟩
    cases read
    constructor

theorem readWith_unresolved_mono (wider : room ≤ more)
    (read : readWith unresolved room text = .ok value) :
    readWith unresolved more text = .ok value := by
  induction room generalizing more text value with
  | zero => cases read
  | succ room ih =>
    obtain ⟨more, rfl⟩ : ∃ own, more = own + 1 := ⟨more - 1, by omega⟩
    have wider : room ≤ more := by omega
    rcases readWith_cases text with ⟨outcome, _, all⟩ | ⟨items, all⟩ | ⟨name, all⟩
    · rw [all] at read ⊢
      exact read
    · rw [all] at read ⊢
      obtain ⟨values, reads, rfl⟩ := map_eq_ok.mp read
      have each : ∀ item ∈ items, readWith unresolved more item = readWith unresolved room item := by
        intro item member
        obtain ⟨own, _, done⟩ := exists_ok_of_mapM reads member
        rw [done, ih wider done]
      rw [mapM_congr each, reads]
      rfl
    · rw [all] at read ⊢
      exact read

/-- A value that can be read at all fails with less room only because it is nested too deeply. -/
theorem fault_of_less_room (read : readWith unresolved more text = .ok value)
    (failed : readWith unresolved room text = .error fault) : fault = .nestedTooDeeply := by
  obtain ⟨nesting, inner, reads, obstacle⟩ := exists_obstacle_of_readWith (resolveIn_nil ▸ failed)
  cases obstacle with
  | deep nested => rfl
  | long integer many =>
    obtain ⟨cause, stopped⟩ : ∃ cause, readWith (resolveIn []) more text = .error cause :=
      reads.readWith_error (.long integer many)
    rw [resolveIn_nil, read] at stopped
    cases stopped

/-- What the bound names stand for: the values of their right-hand sides, in which names stay
names. -/
def meaning (bindings : Bindings) (name : String) : Option Value :=
  (bindings.get? name).bind fun right => (readValue right.toList).toOption

/-- The right-hand sides of the names of a value fit into the room that is left at their places. -/
def HasRoom (bindings : Bindings) (room : Nat) (plain : Value) : Prop :=
  ∀ level name right, plain.HasLeaf level name → bindings.get? name = some right →
    ∃ value, readWith unresolved (room - (level + 1)) right.toList = .ok value

theorem hasRoom_list_iff {items : List Value} :
    HasRoom bindings (room + 1) (.list items) ↔ ∀ item ∈ items, HasRoom bindings room item := by
  constructor
  · intro fits item member level name right leaf bound
    have inside := fits (level + 1) name right (.item member leaf) bound
    rwa [Nat.add_sub_add_right] at inside
  · rintro fits _ name right ⟨⟩ bound
    rename_i item level member leaf
    rw [Nat.add_sub_add_right]
    exact fits item member level name right leaf bound

theorem hasRoom_name_iff {name : String} :
    HasRoom bindings (room + 1) (.unresolved name) ↔
      ∀ right, bindings.get? name = some right →
        ∃ value, readWith unresolved room right.toList = .ok value := by
  constructor
  · exact fun fits right bound => fits 0 name right (.name name) bound
  · rintro each _ _ right ⟨⟩ bound
    exact each right bound

theorem hasRoom_of_fixed (fixed : value.Fixed) : HasRoom bindings room value :=
  fun level name _ leaf _ => absurd leaf (fixed.not_hasLeaf level name)

/-- A name is replaced by what it stands for, where that can be read. -/
theorem resolveIn_eq_ok_iff (within : room ≤ nestingLimit) {name : List Char} :
    resolveIn bindings room name = .ok value ↔
      HasRoom bindings (room + 1) (.unresolved (String.ofList name)) ∧
        (Value.unresolved (String.ofList name)).substitute (meaning bindings) = value := by
  rw [hasRoom_name_iff]
  unfold resolveIn meaning Value.substitute
  cases bound : bindings.get? (String.ofList name) with
  | none => simp [unresolved]
  | some right =>
    simp only [Option.bind_some, Option.some.injEq, forall_eq']
    constructor
    · intro read
      have whole : readValue right.toList = .ok value := readWith_unresolved_mono within read
      exact ⟨⟨value, read⟩, by rw [whole]; rfl⟩
    · rintro ⟨⟨own, read⟩, rfl⟩
      have whole : readValue right.toList = .ok own := readWith_unresolved_mono within read
      rw [whole]
      exact read

/-- Reading under bindings is reading without them and then replacing the bound names once. -/
theorem readWith_resolveIn_eq_ok_iff (within : room ≤ nestingLimit) :
    readWith (resolveIn bindings) room text = .ok value ↔
      ∃ plain, readWith unresolved room text = .ok plain ∧ HasRoom bindings room plain ∧
        plain.substitute (meaning bindings) = value := by
  induction room generalizing text value with
  | zero => simp [readWith]
  | succ room ih =>
    have within : room ≤ nestingLimit := by omega
    rcases readWith_cases text with ⟨outcome, fixed, all⟩ | ⟨items, all⟩ | ⟨name, all⟩
    · simp only [all]
      constructor
      · intro read
        have own := fixed value read
        exact ⟨value, read, hasRoom_of_fixed own, own.substitute_eq⟩
      · rintro ⟨plain, read, _, rfl⟩
        rw [(fixed plain read).substitute_eq]
        exact read
    · simp only [all, map_eq_ok]
      have own (item : List Char) (value : Value) :
          readWith (resolveIn bindings) room item = .ok value ↔
            ∃ plain, readWith unresolved room item = .ok plain ∧ HasRoom bindings room plain ∧
              plain.substitute (meaning bindings) = value :=
        ih (by omega)
      have each := mapM_eq_ok_iff fun item (_ : item ∈ items) => own item
      constructor
      · rintro ⟨values, reads, rfl⟩
        obtain ⟨plains, own, fits, rfl⟩ := (each values).mp reads
        exact ⟨.list plains, ⟨plains, own, rfl⟩, hasRoom_list_iff.mpr fits,
          Value.substitute_list _ plains⟩
      · rintro ⟨_, ⟨plains, own, rfl⟩, fits, rfl⟩
        rw [Value.substitute_list]
        exact ⟨_, (each _).mpr ⟨plains, own, hasRoom_list_iff.mp fits, rfl⟩, rfl⟩
    · simp only [all, resolveIn_eq_ok_iff within]
      simp [unresolved]

/-- Where a text can be read without bindings, a fault comes from the right-hand side of a name. -/
theorem exists_leaf_of_fault (read : readWith unresolved room text = .ok plain)
    (failed : readWith (resolveIn bindings) room text = .error fault) :
    ∃ level name right, plain.HasLeaf level name ∧ bindings.get? name = some right ∧
      readWith unresolved (room - (level + 1)) right.toList = .error fault := by
  induction room generalizing text plain with
  | zero => cases read
  | succ room ih =>
    rcases readWith_cases text with ⟨outcome, fixed, all⟩ | ⟨items, all⟩ | ⟨name, all⟩
    · rw [all] at read failed
      rw [read] at failed
      cases failed
    · rw [all] at read failed
      obtain ⟨plains, reads, rfl⟩ := map_eq_ok.mp read
      obtain ⟨item, member, stopped⟩ := exists_error_of_mapM (map_eq_error.mp failed)
      obtain ⟨own, inside, done⟩ := exists_ok_of_mapM reads member
      obtain ⟨level, name, right, leaf, bound, unread⟩ := ih done stopped
      refine ⟨level + 1, name, right, .item inside leaf, bound, ?_⟩
      rwa [Nat.add_sub_add_right]
    · rw [all] at read failed
      cases read
      unfold resolveIn at failed
      split at failed
      · rename_i right bound
        exact ⟨0, _, right, .name _, bound, failed⟩
      · cases failed

/-- Bindings that agree on the names of a value are as good as each other. -/
theorem readWith_resolveIn_congr (read : readWith unresolved room text = .ok plain)
    (agree : ∀ level name, plain.HasLeaf level name → other.get? name = bindings.get? name) :
    readWith (resolveIn other) room text = readWith (resolveIn bindings) room text := by
  induction room generalizing text plain with
  | zero => rfl
  | succ room ih =>
    rcases readWith_cases text with ⟨outcome, fixed, all⟩ | ⟨items, all⟩ | ⟨name, all⟩
    · rw [all, all]
    · rw [all] at read ⊢
      rw [all]
      obtain ⟨plains, reads, rfl⟩ := map_eq_ok.mp read
      rw [mapM_congr fun item member => ?_]
      obtain ⟨own, inside, done⟩ := exists_ok_of_mapM reads member
      exact ih done fun level name leaf => agree (level + 1) name (.item inside leaf)
    · rw [all] at read ⊢
      cases read
      rw [all, resolveIn, resolveIn, agree 0 _ (.name _)]

/-- Reading a text under bindings, whatever they are, is reading it without them and replacing once
each name that is bound by the value of its right-hand side, in which names stay names. If all of
these can be read, only their nesting in the text can be too deep. And bindings of names that the
value does not have make no difference. -/
theorem readValueIn_substitutes (bindings : Bindings) (text : List Char) :
    (∀ value, readValueIn bindings text = .ok value ↔
      ∃ plain, readValue text = .ok plain ∧ HasRoom bindings nestingLimit plain ∧
        plain.substitute (meaning bindings) = value) ∧
    ∀ plain, readValue text = .ok plain →
      ((∀ level name right, plain.HasLeaf level name → bindings.get? name = some right →
          ∃ value, readValue right.toList = .ok value) →
        readValueIn bindings text = .ok (plain.substitute (meaning bindings)) ∨
          readValueIn bindings text = .error .nestedTooDeeply) ∧
      ∀ other : Bindings,
        (∀ level name, plain.HasLeaf level name → other.get? name = bindings.get? name) →
        readValueIn other text = readValueIn bindings text := by
  refine ⟨fun value => readWith_resolveIn_eq_ok_iff (Nat.le_refl _), ?_⟩
  intro plain read
  refine ⟨?_, fun other agree => readWith_resolveIn_congr read agree⟩
  intro readable
  cases outcome : readValueIn bindings text with
  | ok value =>
    obtain ⟨own, same, _, rfl⟩ := (readWith_resolveIn_eq_ok_iff (Nat.le_refl _)).mp outcome
    rw [readValue, same] at read
    cases read
    exact .inl rfl
  | error fault =>
    obtain ⟨level, name, right, leaf, bound, unread⟩ := exists_leaf_of_fault read outcome
    obtain ⟨value, whole⟩ := readable level name right leaf bound
    rw [fault_of_less_room whole unread]
    exact .inr rfl

theorem readValue_of_room (within : room ≤ nestingLimit)
    (read : readWith unresolved room text = .ok value) : readValue text = .ok value :=
  readWith_unresolved_mono within read

/-- Names that stand for each other are replaced once, and a name in quotes is text. -/
theorem readValueIn_substitutes_of_cycle :
    let bindings : Bindings := [("led", "[pin, 3]"), ("pin", "led")]
    readValueIn bindings "[led, [pin, 'led']]".toList =
      .ok (.list
        [.list [.unresolved "pin", .int 3], .list [.unresolved "led", .str "led"]]) := by
  intro bindings
  have plain : readValue "[led, [pin, 'led']]".toList =
      .ok (.list [.unresolved "led", .list [.unresolved "pin", .str "led"]]) :=
    readValue_of_room (by decide : 3 ≤ nestingLimit) rfl
  have led : readWith unresolved 2 "[pin, 3]".toList = .ok (.list [.unresolved "pin", .int 3]) := rfl
  have pin : readWith unresolved 1 "led".toList = .ok (.unresolved "led") := rfl
  have room : HasRoom bindings nestingLimit
      (.list [.unresolved "led", .list [.unresolved "pin", .str "led"]]) := by
    simp only [nestingLimit, hasRoom_list_iff, List.forall_mem_cons, hasRoom_name_iff]
    refine ⟨?_, ⟨?_, hasRoom_of_fixed (.str _), nofun⟩, nofun⟩
    · rintro _ ⟨⟩
      exact ⟨_, readWith_unresolved_mono (by decide) led⟩
    · rintro _ ⟨⟩
      exact ⟨_, readWith_unresolved_mono (by decide) pin⟩
  refine ((readValueIn_substitutes bindings _).1 _).mpr ⟨_, plain, room, ?_⟩
  have led : meaning bindings "led" = some (.list [.unresolved "pin", .int 3]) := by
    rw [meaning, show bindings.get? "led" = some "[pin, 3]" from rfl, Option.bind_some,
      readValue_of_room (by decide) led]
    rfl
  have pin : meaning bindings "pin" = some (.unresolved "led") := by
    rw [meaning, show bindings.get? "pin" = some "led" from rfl, Option.bind_some,
      readValue_of_room (by decide) pin]
    rfl
  simp [Value.substitute, Value.substituteAll, led, pin]

end Source

end PinBudget
