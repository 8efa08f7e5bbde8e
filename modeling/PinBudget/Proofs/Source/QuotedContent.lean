import Mathlib.Data.List.Forall2
import Mathlib.Tactic.MkIffOfInductiveProp
import PinBudget.Proofs.Source.Correspondence
import PinBudget.Proofs.Source.Scan
import PinBudget.Source.Pattern

/-!
Texts that differ only in what their quoted parts say. Their scans pass through the same states, so
their masks, their brackets and the targets of their assignments are the same; and this lasts when
lines are joined to statements.
-/
namespace PinBudget.Source

open ScanState

variable {text other front rest : List Char}

/-- A character of quoted content: neither a quote nor a backslash nor a line break. -/
def isContent (c : Char) : Bool :=
  !isQuote c && c != '\\' && !Text.isLineBreak c

/-- Two marks with the same character, or with quoted content. -/
def Mark.Alike (mark partner : Mark) : Prop :=
  mark.char = partner.char ∨
    mark.quoted = true ∧ partner.quoted = true ∧
      isContent mark.char = true ∧ isContent partner.char = true

instance (mark partner : Mark) : Decidable (mark.Alike partner) :=
  inferInstanceAs (Decidable (_ ∨ _))

/-- Two texts of the same length that close their quotes and differ at most in quoted content. -/
@[mk_iff]
structure SameCode (text other : List Char) : Prop where
  outside : EndsOutside text
  outsideOther : EndsOutside other
  marks : List.Forall₂ Mark.Alike (scan text) (scan other)

instance (text other : List Char) : Decidable (SameCode text other) :=
  decidable_of_iff _ (sameCode_iff text other).symm

def Mark.veiled (mark : Mark) : Mark :=
  { mark with char := mark.masked }

/-- Whether a bracket closes here and leaves so many open. -/
def Mark.closesTo (depth : Int) (mark : Mark) : Bool :=
  !mark.quoted && isClosing mark.char && mark.depth == depth

theorem Mark.depth_veiled (mark : Mark) : mark.veiled.depth = mark.depth :=
  rfl

/-- A bracket that closes another one is not quoted, so the veil does not hide it. -/
theorem Mark.closesTo_veiled (depth : Int) (mark : Mark) :
    mark.veiled.closesTo depth = mark.closesTo depth := by
  cases quoted : mark.quoted <;> simp [closesTo, veiled, masked, quoted]

theorem findClosing?_eq_bind (text : List Char) (opening : Nat) :
    findClosing? text opening = ((scan text)[opening]?.map Mark.depth).bind fun depth =>
      (((scan text).drop (opening + 1)).findIdx? (Mark.closesTo (depth - 1))).map
        (· + (opening + 1)) := by
  cases start : (scan text)[opening]? with
  | none => simp only [findClosing?, start, Option.map_none, Option.bind_none]
  | some mark =>
    simp only [findClosing?, start, Option.map_some, Option.bind_some]
    rfl

theorem ScanState.Sound.step_eq {state : ScanState} (sound : state.Sound) {c d : Char}
    (alike : (state.mark c).Alike (state.mark d)) : state.step c = state.step d := by
  rcases alike with same | ⟨quoted, _, content, partner⟩
  · exact congrArg state.step same
  · simp only [mark, isContent, Bool.and_eq_true, Bool.not_eq_true', bne_iff_ne] at content partner
    obtain ⟨⟨unquoting, plain⟩, _⟩ := content
    obtain ⟨⟨unquotingPartner, plainPartner⟩, _⟩ := partner
    simp only [mark, unquoting, Bool.or_false, Option.isSome_iff_exists] at quoted
    obtain ⟨quote, inside⟩ := quoted
    have closing := sound.quoting quote inside
    have open_ : c ≠ quote := by
      rintro rfl
      rw [closing] at unquoting
      cases unquoting
    have openPartner : d ≠ quote := by
      rintro rfl
      rw [closing] at unquotingPartner
      cases unquotingPartner
    simp [ScanState.step, inside, plain, plainPartner, open_, openPartner]

theorem ScanState.Sound.veiled_eq {state : ScanState} (sound : state.Sound) {c d : Char}
    (alike : (state.mark c).Alike (state.mark d)) :
    (state.mark c).veiled = (state.mark d).veiled := by
  have step := sound.step_eq alike
  rcases alike with same | ⟨quoted, quotedPartner, content, partner⟩
  · exact congrArg (fun c => (state.mark c).veiled) same
  · have masked : (state.mark c).masked = (state.mark d).masked := by
      simp only [isContent, Bool.and_eq_true, Bool.not_eq_true'] at content partner
      simp [Mark.masked, quoted, quotedPartner, content, partner]
    rw [Mark.veiled, Mark.veiled, masked, quoted, quotedPartner]
    simp only [mark, step]

/-- Two scans that meet the same characters but for content go through the same states. -/
theorem ScanState.Sound.run_eq {state : ScanState} (sound : state.Sound)
    (alike : List.Forall₂ Mark.Alike (state.marks text) (state.marks other)) :
    state.run text = state.run other ∧
      (state.marks text).map Mark.veiled = (state.marks other).map Mark.veiled := by
  induction text generalizing state other with
  | nil =>
    cases other with
    | nil => exact ⟨rfl, rfl⟩
    | cons d others => cases alike
  | cons c rest ih =>
    cases other with
    | nil => cases alike
    | cons d others =>
      rw [ScanState.marks, ScanState.marks] at alike
      obtain ⟨head, tail⟩ := List.forall₂_cons.mp alike
      rw [← sound.step_eq head] at tail
      obtain ⟨reached, veiled⟩ := ih (sound.step c) tail
      refine ⟨?_, ?_⟩
      · rw [ScanState.run, ScanState.run, List.foldl_cons, List.foldl_cons, ← sound.step_eq head]
        exact reached
      · rw [ScanState.marks, ScanState.marks, List.map_cons, List.map_cons, sound.veiled_eq head,
          ← sound.step_eq head, veiled]

namespace SameCode

theorem run_eq (same : SameCode text other) : ScanState.run {} text = ScanState.run {} other :=
  ((sound_level 0).run_eq same.marks).1

theorem veiled_eq (same : SameCode text other) :
    (scan text).map Mark.veiled = (scan other).map Mark.veiled :=
  ((sound_level 0).run_eq same.marks).2

theorem bracketDepth_eq (same : SameCode text other) : bracketDepth text = bracketDepth other := by
  rw [bracketDepth, same.run_eq, bracketDepth]

theorem mask_eq (same : SameCode text other) : mask text = mask other := by
  have shown := congrArg (List.map Mark.char) same.veiled_eq
  rw [List.map_map, List.map_map] at shown
  exact shown

theorem isEmpty_eq (same : SameCode text other) : text.isEmpty = other.isEmpty := by
  have length := same.marks.length_eq
  rw [length_scan, length_scan] at length
  rw [Bool.eq_iff_iff, List.isEmpty_iff_length_eq_zero, List.isEmpty_iff_length_eq_zero, length]

theorem findClosing?_eq (same : SameCode text other) (opening : Nat) :
    findClosing? text opening = findClosing? other opening := by
  have depths := congrArg (fun marks => marks[opening]?.map Mark.depth) same.veiled_eq
  have closings (depth : Int) := congrArg
    (fun marks => (marks.drop (opening + 1)).findIdx? (Mark.closesTo depth)) same.veiled_eq
  simp only [List.getElem?_map, Option.map_map, Function.comp_def, Mark.depth_veiled] at depths
  simp only [← List.map_drop, List.findIdx?_map, Function.comp_def, Mark.closesTo_veiled] at closings
  rw [findClosing?_eq_bind, findClosing?_eq_bind, depths]
  simp only [closings]

/-- A line joined to a text stands outside quotes, at the depth that the text reached. -/
theorem scan_join (outside : EndsOutside text) (line : List Char) :
    scan (text ++ ' ' :: line) = scan text ++ ⟨' ', bracketDepth text, false⟩ ::
      (scan line).map (Mark.deeper (bracketDepth text)) := by
  rw [scan, marks_append, outside.run_eq, ScanState.marks, step_plain (by decide),
    mark_plain (by decide), marks_level (bracketDepth text), ← scan]

theorem endsOutside_join {line : List Char} (outside : EndsOutside text)
    (further : EndsOutside line) : EndsOutside (text ++ ' ' :: line) := by
  have reached : ScanState.run {} (text ++ ' ' :: line) =
      level (bracketDepth line + bracketDepth text) := by
    rw [run_append, outside.run_eq, ScanState.run, List.foldl_cons, step_plain (by decide),
      ← ScanState.run, further.run_level]
  rw [EndsOutside, reached]

theorem join {line partner : List Char} (same : SameCode text other)
    (further : SameCode line partner) :
    SameCode (text ++ ' ' :: line) (other ++ ' ' :: partner) where
  outside := endsOutside_join same.outside further.outside
  outsideOther := endsOutside_join same.outsideOther further.outsideOther
  marks := by
    rw [scan_join same.outside, scan_join same.outsideOther]
    refine List.rel_append same.marks (.cons (.inl rfl) ?_)
    rw [List.forall₂_map_left_iff, List.forall₂_map_right_iff]
    exact further.marks

theorem joinable : Joinable SameCode where
  empty := isEmpty_eq
  depth := bracketDepth_eq
  join := join

end SameCode

end PinBudget.Source
