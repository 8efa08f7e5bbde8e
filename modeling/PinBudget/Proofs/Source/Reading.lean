import PinBudget.Proofs.Outcome
import PinBudget.Source.Argument

/-!
When reading a value fails. Reading a text comes to read further texts: the items of lists, and the
right-hand sides of names. A value can be read exactly if none of these is nested too deeply and
none is a whole number with too many digits.
-/
namespace PinBudget

namespace Source

/-- Reading a text under bindings comes to read `inner`, inside so many other texts: the text
itself, the items of a list, and what a name is bound to, in which names stay names. -/
inductive Reads : Bindings → List Char → Nat → List Char → Prop where
  | self (bindings : Bindings) (text : List Char) : Reads bindings text 0 text
  | item {bindings : Bindings} {text content item inner : List Char} {nesting : Nat}
      (list : Literal.ofText (Text.trim text) = .list content)
      (member : item ∈ splitArguments content) (further : Reads bindings item nesting inner) :
      Reads bindings text (nesting + 1) inner
  | bound {bindings : Bindings} {text name inner : List Char} {right : String} {nesting : Nat}
      (named : Literal.ofText (Text.trim text) = .name name)
      (bound : bindings.get? (String.ofList name) = some right)
      (further : Reads [] right.toList nesting inner) : Reads bindings text (nesting + 1) inner

/-- Why a text inside so many others cannot be read where only some may be nested: it is one too
many, or it is a whole number with too many digits. -/
inductive Obstacle (room nesting : Nat) (inner : List Char) : Fault → Prop where
  | deep (nested : room ≤ nesting) : Obstacle room nesting inner .nestedTooDeeply
  | long {negative : Bool} {digits : List Char}
      (integer : Literal.ofText (Text.trim inner) = .integer negative digits)
      (many : Fault.digitLimit < digits.length) :
      Obstacle room nesting inner (.numeralTooLong digits.length)

variable {bindings : Bindings} {text inner : List Char} {room nesting : Nat} {fault : Fault}

theorem Obstacle.deeper (obstacle : Obstacle room nesting inner fault) :
    Obstacle (room + 1) (nesting + 1) inner fault := by
  cases obstacle with
  | deep nested => exact .deep (Nat.succ_le_succ nested)
  | long integer many => exact .long integer many

theorem Obstacle.shallower (obstacle : Obstacle (room + 1) (nesting + 1) inner fault) :
    Obstacle room nesting inner fault := by
  cases obstacle with
  | deep nested => exact .deep (Nat.le_of_succ_le_succ nested)
  | long integer many => exact .long integer many

theorem resolveIn_nil : resolveIn [] = unresolved :=
  rfl

/-- A fault of reading comes from an obstacle that it met. -/
theorem exists_obstacle_of_readWith (failed : readWith (resolveIn bindings) room text = .error fault) :
    ∃ nesting inner, Reads bindings text nesting inner ∧ Obstacle room nesting inner fault := by
  induction room generalizing bindings text with
  | zero =>
    cases failed
    exact ⟨0, text, .self .., .deep (Nat.le_refl 0)⟩
  | succ room ih =>
    rw [readWith] at failed
    split at failed
    case h_1 negative digits integer =>
      rw [map_eq_error, Numeral.ofDigits] at failed
      split at failed
      · cases failed
        exact ⟨0, text, .self .., .long integer ‹_›⟩
      · cases failed
    case h_5 content list =>
      obtain ⟨item, member, own⟩ := exists_error_of_mapM (map_eq_error.mp failed)
      obtain ⟨nesting, inner, reads, obstacle⟩ := ih own
      exact ⟨nesting + 1, inner, .item list member reads, obstacle.deeper⟩
    case h_8 name named =>
      rw [resolveIn] at failed
      split at failed
      · rename_i right bound
        obtain ⟨nesting, inner, reads, obstacle⟩ := ih (resolveIn_nil ▸ failed)
        exact ⟨nesting + 1, inner, .bound named bound reads, obstacle.deeper⟩
      · cases failed
    all_goals cases failed

theorem Reads.readWith_error (reads : Reads bindings text nesting inner)
    (obstacle : Obstacle room nesting inner fault) :
    ∃ cause, readWith (resolveIn bindings) room text = .error cause := by
  induction reads generalizing room with
  | self bindings text =>
    cases room with
    | zero => exact ⟨_, rfl⟩
    | succ room =>
      cases obstacle with
      | deep nested => cases nested
      | long integer many =>
        rw [readWith, integer]
        exact ⟨_, by simp only [Numeral.ofDigits, if_pos many]; rfl⟩
  | item list member _ ih =>
    cases room with
    | zero => exact ⟨_, rfl⟩
    | succ room =>
      obtain ⟨cause, failed⟩ := ih obstacle.shallower
      obtain ⟨cause, failed⟩ := mapM_error_of_mem member failed
      rw [readWith, list]
      exact ⟨cause, map_eq_error.mpr failed⟩
  | bound named bound _ ih =>
    cases room with
    | zero => exact ⟨_, rfl⟩
    | succ room =>
      obtain ⟨cause, failed⟩ := ih obstacle.shallower
      rw [readWith, named]
      exact ⟨cause, by simp only [resolveIn, bound]; exact failed⟩

/-- What stands for the value of an argument: the text behind its name, if it has one. -/
def valueText (part : List Char) : List Char :=
  match namedArgument? part with
  | some (_, right) => right
  | none => part

namespace Arguments

variable {arguments : Arguments} {part : List Char}

theorem add_eq_error :
    arguments.add bindings part = .error fault ↔
      readValueIn bindings (valueText part) = .error fault := by
  unfold add valueText
  cases namedArgument? part with
  | none => exact map_eq_error
  | some named => exact map_eq_error

theorem exists_error_of_read (failed : Arguments.read bindings text = .error fault) :
    ∃ part ∈ splitArguments text, readValueIn bindings (valueText part) = .error fault := by
  obtain ⟨part, member, _, own⟩ := exists_error_of_foldlM failed
  exact ⟨part, member, add_eq_error.mp own⟩

theorem read_error_of_mem (member : part ∈ splitArguments text)
    (failed : readValueIn bindings (valueText part) = .error fault) :
    ∃ cause, Arguments.read bindings text = .error cause :=
  foldlM_error_of_mem member fun _ => add_eq_error.mpr failed

end Arguments

end Source

end PinBudget
