import PinBudget.Proofs.Allocation.Invariant

/-!
The first valid claim wins. A bid that meets no fault ends in one of six ways, and which one depends
on the bids before it only through the bid that was granted the same pin.
-/
namespace PinBudget

theorem Kind.parse_name (kind : Kind) : Kind.parse kind.name = .ok kind := by
  cases kind <;> rfl

/-- The bid's kind is known, and its value is a literal that names the pin. -/
def Bid.Names (bid : Bid) (kind : Kind) (pin : Pin) : Prop :=
  Kind.parse bid.kindName = .ok kind ∧ bid.value.mentionsName = false ∧
    Pin.ofValue bid.value = .ok pin

/-- The bid's kind is known, but its value is a name, or a list or tuple with a name in it. -/
def Bid.Unchecked (bid : Bid) : Prop :=
  (∃ kind, Kind.parse bid.kindName = .ok kind) ∧ bid.value.mentionsName = true

theorem Bid.not_unchecked {bid : Bid} (literal : bid.value.mentionsName = false) :
    ¬ bid.Unchecked := by
  rintro ⟨_, name⟩
  simp [literal] at name

namespace Registry

variable {registry : Registry} {bid : Bid}

/-- How a bid ends, with what is written down and whether the pin is granted. -/
inductive Ruling (registry : Registry) (bid : Bid) : Reached × Bool → Prop where
  | unknown {fault : Fault} (unparsed : Kind.parse bid.kindName = .error fault) :
      Ruling registry bid
        ({ registry := registry.addError
            (Issue.located .unknownPeripheralKind fault.message bid.sourceId bid.line) }, false)
  | unchecked {kind : Kind} (parsed : Kind.parse bid.kindName = .ok kind)
      (name : bid.value.mentionsName = true) (warning : String) :
      Ruling registry bid ({ registry := registry.addWarnings [warning] }, false)
  | misread {error : PinError} (literal : bid.value.mentionsName = false)
      (read : Pin.ofValue bid.value = .error (.pin error)) :
      Ruling registry bid
        ({ registry := registry.addError
            (Issue.located error.issueKind error.message bid.sourceId bid.line) }, false)
  | duplicate {kind : Kind} {pin : Pin} {holder : Record} (names : bid.Names kind pin)
      (taken : registry.pinMap.get? pin = some holder) :
      Ruling registry bid
        ({ registry := registry.addError (Issue.located .duplicatePinClaim
            (Claim.takenMessage pin holder.kind holder.sourceId holder.line) bid.sourceId
            bid.line) }, false)
  | unsupported {kind : Kind} {pin : Pin} (names : bid.Names kind pin)
      (free : registry.pinMap.get? pin = none)
      (refused : ((Validator.standard kind).validate pin bid.line bid.function).ok = false)
      (message : String) :
      Ruling registry bid
        ({ registry := registry.addError
            ⟨.unsupportedPeripheralForPin, message, bid.sourceId, some bid.line⟩ }, false)
  | granted {kind : Kind} {pin : Pin} (names : bid.Names kind pin)
      (free : registry.pinMap.get? pin = none)
      (accepted : ((Validator.standard kind).validate pin bid.line bid.function).ok = true)
      (record : Record) (warnings : List String) :
      Ruling registry bid ({ registry := (registry.grant record).addWarnings warnings }, true)

theorem submit_of_kind {kind : Kind} (board : registry.validators = Validators.standard)
    (parsed : Kind.parse bid.kindName = .ok kind) :
    registry.submit bid =
      (registry.settle ((bid.claim kind).verdict (some (Validator.standard kind)) registry.pinMap),
        ((bid.claim kind).verdict (some (Validator.standard kind)) registry.pinMap).isGranted) := by
  unfold submit claimFor
  rw [parsed]
  simp only [verdict, board]
  rfl

/-- A bid for a known kind that meets no fault ends as its verdict says. -/
theorem ruling_of_judged {kind : Kind} {judged : Verdict}
    (parsed : Kind.parse bid.kindName = .ok kind)
    (reason : (bid.claim kind).Judged (Validator.standard kind) registry.pinMap judged)
    (quiet : (registry.settle judged).fault = none) :
    Ruling registry bid (registry.settle judged, judged.isGranted) := by
  have names {pin : Pin} (named : bid.value.literalPin? = some pin) : bid.Names kind pin :=
    ⟨parsed, Value.literalPin?_eq_some_iff.mp named⟩
  cases reason with
  | stopped fault => cases quiet
  | unchecked name warning => exact .unchecked parsed name warning
  | misread literal read => exact .misread literal read
  | duplicate named taken => exact .duplicate (names named) taken
  | unsupported named free refused message => exact .unsupported (names named) free refused message
  | granted named free grants info warnings =>
    exact .granted (names named) free (Validation.ok_iff_grants.mpr ⟨_, grants⟩) _ warnings

theorem submit_ruling (board : registry.validators = Validators.standard)
    (quiet : (registry.submit bid).1.fault = none) :
    Ruling registry bid (registry.submit bid) := by
  cases parsed : Kind.parse bid.kindName with
  | error fault =>
    unfold submit claimFor
    rw [parsed]
    exact .unknown parsed
  | ok kind =>
    rw [submit_of_kind board parsed] at quiet ⊢
    exact ruling_of_judged parsed (Claim.verdict_judged _ _ _) quiet

theorem issueKind_of_pinError (error : PinError) :
    error.issueKind = .invalidPinFormat ∨ error.issueKind = .pinOutOfRange := by
  cases error <;> simp [PinError.issueKind]

namespace Ruling

variable {reached : Reached} {granted : Bool}

theorem granted_iff (ruling : Ruling registry bid (reached, granted)) :
    granted = true ↔ ∃ kind pin, bid.Names kind pin ∧ registry.pinMap.get? pin = none ∧
      ((Validator.standard kind).validate pin bid.line bid.function).ok = true := by
  cases ruling with
  | unknown unparsed => simp [Bid.Names, unparsed]
  | unchecked parsed name warning => simp [Bid.Names, name]
  | misread literal read => simp [Bid.Names, read]
  | duplicate names taken =>
    obtain ⟨parsed, literal, read⟩ := names
    simp [Bid.Names, read, taken]
  | unsupported names free refused message =>
    obtain ⟨parsed, literal, read⟩ := names
    simp [Bid.Names, parsed, read, refused]
  | granted names free accepted record warnings =>
    exact ⟨fun _ => ⟨_, _, names, free, accepted⟩, fun _ => rfl⟩

theorem duplicate_iff (ruling : Ruling registry bid (reached, granted)) :
    (∃ issue, reached.registry.errors = registry.errors ++ [issue] ∧
      issue.kind = .duplicatePinClaim) ↔
    ∃ kind pin holder, bid.Names kind pin ∧ registry.pinMap.get? pin = some holder := by
  cases ruling with
  | unknown unparsed => simp [Bid.Names, unparsed, addError, Issue.located]
  | unchecked parsed name warning => simp [Bid.Names, name, addWarnings]
  | misread literal read =>
    rename_i error
    rcases issueKind_of_pinError error with kind | kind <;>
      simp [Bid.Names, read, addError, Issue.located, kind]
  | duplicate names taken =>
    exact ⟨fun _ => ⟨_, _, _, names, taken⟩, fun _ => ⟨_, rfl, rfl⟩⟩
  | unsupported names free refused message =>
    obtain ⟨parsed, literal, read⟩ := names
    simp [Bid.Names, read, free, addError]
  | granted names free accepted record warnings =>
    obtain ⟨parsed, literal, read⟩ := names
    simp [Bid.Names, read, free, addWarnings, grant]

theorem unsupported_iff (ruling : Ruling registry bid (reached, granted)) :
    (∃ issue, reached.registry.errors = registry.errors ++ [issue] ∧
      issue.kind = .unsupportedPeripheralForPin) ↔
    ∃ kind pin, bid.Names kind pin ∧ registry.pinMap.get? pin = none ∧
      ((Validator.standard kind).validate pin bid.line bid.function).ok = false := by
  cases ruling with
  | unknown unparsed => simp [Bid.Names, unparsed, addError, Issue.located]
  | unchecked parsed name warning => simp [Bid.Names, name, addWarnings]
  | misread literal read =>
    rename_i error
    rcases issueKind_of_pinError error with kind | kind <;>
      simp [Bid.Names, read, addError, Issue.located, kind]
  | duplicate names taken =>
    obtain ⟨parsed, literal, read⟩ := names
    simp [Bid.Names, read, taken, addError, Issue.located]
  | unsupported names free refused message =>
    exact ⟨fun _ => ⟨_, _, names, free, refused⟩, fun _ => ⟨_, rfl, rfl⟩⟩
  | granted names free accepted record warnings =>
    obtain ⟨parsed, literal, read⟩ := names
    simp [Bid.Names, parsed, read, accepted, addWarnings, grant]

/-- The issue of a duplicate names the kind and the place of the holder. -/
theorem errors_of_taken {kind : Kind} {pin : Pin} {holder : Record}
    (ruling : Ruling registry bid (reached, granted)) (names : bid.Names kind pin)
    (taken : registry.pinMap.get? pin = some holder) :
    reached.registry.errors = registry.errors ++ [Issue.located .duplicatePinClaim
      (Claim.takenMessage pin holder.kind holder.sourceId holder.line) bid.sourceId bid.line] := by
  obtain ⟨parsed, literal, read⟩ := names
  cases ruling with
  | unknown unparsed => simp [parsed] at unparsed
  | unchecked parsed name warning => simp [literal] at name
  | misread literal misread => simp [read] at misread
  | duplicate names found =>
    obtain ⟨_, _, own⟩ := names
    cases Except.ok.inj (read.symm.trans own)
    cases Option.some.inj (taken.symm.trans found)
    rfl
  | unsupported names free refused message =>
    obtain ⟨_, _, own⟩ := names
    cases Except.ok.inj (read.symm.trans own)
    simp [taken] at free
  | granted names free accepted record warnings =>
    obtain ⟨_, _, own⟩ := names
    cases Except.ok.inj (read.symm.trans own)
    simp [taken] at free

/-- A bid that is not granted leaves the pins alone. Where its kind is known and its value mentions
a name it leaves one warning behind, and otherwise one issue. -/
theorem refused (ruling : Ruling registry bid (reached, false)) :
    reached.registry.pinMap = registry.pinMap ∧ reached.registry.accepted = registry.accepted ∧
      (¬ bid.Unchecked ∧ (∃ issue, reached.registry.errors = registry.errors ++ [issue]) ∧
          reached.registry.warnings = registry.warnings ∨
        bid.Unchecked ∧ reached.registry.errors = registry.errors ∧
          ∃ warning, reached.registry.warnings = registry.warnings ++ [warning]) := by
  cases ruling with
  | unknown unparsed =>
    refine ⟨rfl, rfl, .inl ⟨?_, ⟨_, rfl⟩, rfl⟩⟩
    rintro ⟨⟨kind, parsed⟩, _⟩
    simp [unparsed] at parsed
  | unchecked parsed name warning =>
    exact ⟨rfl, rfl, .inr ⟨⟨⟨_, parsed⟩, name⟩, rfl, warning, rfl⟩⟩
  | misread literal read =>
    exact ⟨rfl, rfl, .inl ⟨Bid.not_unchecked literal, ⟨_, rfl⟩, rfl⟩⟩
  | duplicate names taken =>
    exact ⟨rfl, rfl, .inl ⟨Bid.not_unchecked names.2.1, ⟨_, rfl⟩, rfl⟩⟩
  | unsupported names free refused message =>
    exact ⟨rfl, rfl, .inl ⟨Bid.not_unchecked names.2.1, ⟨_, rfl⟩, rfl⟩⟩

end Ruling

end Registry

/-- The record is the one that the bid was granted. -/
structure Record.GrantedTo (record : Record) (bid : Bid) : Prop where
  named : bid.value.literalPin? = some record.pin
  parsed : Kind.parse bid.kindName = .ok record.kind
  sourceId : record.sourceId = bid.sourceId
  line : record.line = bid.line

namespace Registry

variable {registry : Registry} {bid holder : Bid} {bids : List Bid} {pin : Pin} {record : Record}

theorem submit_granted (granted : (registry.submit bid).2 = true) :
    ∃ record warnings, record.GrantedTo bid ∧ registry.pinMap.get? record.pin = none ∧
      (registry.submit bid).1.registry = (registry.grant record).addWarnings warnings := by
  unfold submit claimFor at *
  cases parsed : Kind.parse bid.kindName with
  | error fault => simp [parsed] at granted
  | ok kind =>
    simp only [parsed] at granted ⊢
    cases judged : registry.verdict (bid.claim kind) with
    | accepted record warnings =>
      obtain ⟨named, free, validator, entry, info, _, _, same⟩ := Claim.verdict_accepted judged
      refine ⟨record, warnings, ⟨named, ?_, ?_, ?_⟩, free, rfl⟩
      · rw [same]
        exact parsed
      · rw [same]
        rfl
      · rw [same]
        rfl
    | _ => simp [judged, Verdict.isGranted] at granted

theorem submit_not_granted (refused : (registry.submit bid).2 = false) :
    (registry.submit bid).1.registry.pinMap = registry.pinMap := by
  unfold submit claimFor at *
  cases parsed : Kind.parse bid.kindName with
  | error fault => rfl
  | ok kind =>
    simp only [parsed] at refused ⊢
    exact pinMap_settle refused

/-- One of the bids, made one after the other, was granted the pin. -/
def Holder (registry : Registry) (bids : List Bid) (pin : Pin) (holder : Bid) : Prop :=
  ∃ before after, bids = before ++ holder :: after ∧
    ((registry.afterBids before).submit holder).2 = true ∧ holder.value.literalPin? = some pin

theorem afterBids_append (before after : List Bid) :
    registry.afterBids (before ++ after) = (registry.afterBids before).afterBids after :=
  List.foldl_append

/-- The bid that was granted a pin keeps it. -/
theorem get?_of_holder (holds : registry.Holder bids pin holder) :
    ∃ record, (registry.afterBids bids).pinMap.get? pin = some record ∧
      record.GrantedTo holder := by
  obtain ⟨before, after, same, granted, named⟩ := holds
  obtain ⟨record, warnings, own, free, reached⟩ := submit_granted granted
  refine ⟨record, ?_, own⟩
  have samePin : pin = record.pin := Option.some.inj (named.symm.trans own.named)
  rw [same, afterBids_append, afterBids_cons]
  apply ((stable_extends _).afterBids after (Extends.refl _)).kept pin record
  rw [reached, samePin]
  change Dict.get? ((registry.afterBids before).grant record).pinMap record.pin = some record
  rw [pinMap_grant free, Dict.get?_append, free]
  simp [Dict.get?_cons]

/-- A pin is held from the start, or by one of the bids. -/
theorem holder_of_get? (found : (registry.afterBids bids).pinMap.get? pin = some record) :
    registry.pinMap.get? pin = some record ∨ ∃ holder, registry.Holder bids pin holder := by
  induction bids generalizing registry with
  | nil => exact .inl found
  | cons bid rest ih =>
    rw [afterBids_cons] at found
    rcases ih found with earlier | ⟨holder, before, after, same, granted, named⟩
    · cases granted : (registry.submit bid).2 with
      | false =>
        rw [submit_not_granted granted] at earlier
        exact .inl earlier
      | true =>
        obtain ⟨own, warnings, grantedTo, free, reached⟩ := submit_granted granted
        rw [reached] at earlier
        change Dict.get? (registry.grant own).pinMap pin = some record at earlier
        rw [pinMap_grant free, Dict.get?_append] at earlier
        cases before : registry.pinMap.get? pin with
        | some kept =>
          rw [before] at earlier
          exact .inl earlier
        | none =>
          simp only [before, Option.none_or, Dict.get?_cons, beq_iff_eq] at earlier
          split at earlier
          · rename_i same
            subst same
            exact .inr ⟨bid, [], rest, rfl, granted, grantedTo.named⟩
          · simp at earlier
    · refine .inr ⟨holder, bid :: before, after, by rw [same]; rfl, ?_, named⟩
      rw [afterBids_cons]
      exact granted

/-- On a fresh registry a pin is held exactly when one of the bids was granted it. -/
theorem held_iff_holder :
    (∃ record, (fresh.afterBids bids).pinMap.get? pin = some record) ↔
      ∃ holder, fresh.Holder bids pin holder := by
  constructor
  · rintro ⟨record, found⟩
    rcases holder_of_get? found with start | granted
    · simp at start
    · exact granted
  · rintro ⟨holder, holds⟩
    obtain ⟨record, found, _⟩ := get?_of_holder holds
    exact ⟨record, found⟩

/-- On a fresh registry a pin is free exactly as long as no bid was granted it. -/
theorem free_iff_no_holder :
    (fresh.afterBids bids).pinMap.get? pin = none ↔
      ∀ holder, ¬ fresh.Holder bids pin holder := by
  rw [← not_exists, ← held_iff_holder, Option.eq_none_iff_forall_ne_some, not_exists]

/-- The rule of the first claim, for a bid that follows others and meets no fault. It is granted
exactly when it names a pin that no earlier bid was granted and that serves its kind in its role. It
is a duplicate exactly when it names a pin that an earlier bid was granted, and then the message
tells that bid's kind, source and line. It is unsupported exactly when the pin is free and the
validator refuses. A bid that is not granted leaves the pins alone, and one issue or one warning
behind. -/
theorem first_claim_wins {earlier : List Bid} {bid : Bid} {before after : Registry} {granted : Bool}
    (start : fresh.afterBids earlier = before)
    (call : before.submit bid = ({ registry := after }, granted)) :
    (granted = true ↔ ∃ kind pin, bid.Names kind pin ∧
      (∀ holder, ¬ fresh.Holder earlier pin holder) ∧
      ((Validator.standard kind).validate pin bid.line bid.function).ok = true) ∧
    ((∃ issue, after.errors = before.errors ++ [issue] ∧ issue.kind = .duplicatePinClaim) ↔
      ∃ kind pin holder, bid.Names kind pin ∧ fresh.Holder earlier pin holder) ∧
    (∀ kind pin holder, bid.Names kind pin → fresh.Holder earlier pin holder →
      ∃ holderKind, Kind.parse holder.kindName = .ok holderKind ∧
        after.errors = before.errors ++ [Issue.located .duplicatePinClaim
          (Claim.takenMessage pin holderKind holder.sourceId holder.line) bid.sourceId bid.line]) ∧
    ((∃ issue, after.errors = before.errors ++ [issue] ∧
        issue.kind = .unsupportedPeripheralForPin) ↔
      ∃ kind pin, bid.Names kind pin ∧ (∀ holder, ¬ fresh.Holder earlier pin holder) ∧
        ((Validator.standard kind).validate pin bid.line bid.function).ok = false) ∧
    (granted = false → after.pinMap = before.pinMap ∧ after.accepted = before.accepted ∧
      (¬ bid.Unchecked ∧ (∃ issue, after.errors = before.errors ++ [issue]) ∧
          after.warnings = before.warnings ∨
        bid.Unchecked ∧ after.errors = before.errors ∧
          ∃ warning, after.warnings = before.warnings ++ [warning])) := by
  have ruling : Ruling before bid ({ registry := after }, granted) := by
    rw [← call]
    apply submit_ruling
    · rw [← start]
      exact (stable_consistent.afterBids earlier consistent_fresh).standard
    · rw [call]
  have free (pin : Pin) : before.pinMap.get? pin = none ↔
      ∀ holder, ¬ fresh.Holder earlier pin holder := by
    rw [← start]
    exact free_iff_no_holder
  have held (pin : Pin) : (∃ record, before.pinMap.get? pin = some record) ↔
      ∃ holder, fresh.Holder earlier pin holder := by
    rw [← start]
    exact held_iff_holder
  refine ⟨?_, ?_, ?_, ?_, ?_⟩
  · simpa only [free] using ruling.granted_iff
  · simpa only [exists_and_left, held] using ruling.duplicate_iff
  · intro kind pin holder names holds
    obtain ⟨record, found, grantedTo⟩ := get?_of_holder holds
    rw [start] at found
    refine ⟨record.kind, grantedTo.parsed, ?_⟩
    rw [← grantedTo.sourceId, ← grantedTo.line]
    exact ruling.errors_of_taken names found
  · simpa only [free] using ruling.unsupported_iff
  · intro refused
    subst refused
    exact ruling.refused

/-- A pin that a first bid was refused goes to the second. The third bid spells the same pin in
another way and is told who holds it. -/
theorem first_claim_wins_after_refusal :
    ∃ before after : Registry,
      fresh.afterBids [⟨"I2C", .str "B0", "main", 1, none, none, none⟩,
        ⟨"GPIO", .int 5, "main", 2, none, none, none⟩] = before ∧
      before.submit ⟨"pwm", .str "rb0", "main", 3, none, none, none⟩ =
        ({ registry := after }, false) ∧
      ∃ issue, after.errors = before.errors ++ [issue] ∧ issue.kind = .duplicatePinClaim := by
  obtain ⟨before, start⟩ : ∃ before,
      fresh.afterBids [⟨"I2C", .str "B0", "main", 1, none, none, none⟩,
        ⟨"GPIO", .int 5, "main", 2, none, none, none⟩] = before := ⟨_, rfl⟩
  obtain ⟨after, call⟩ : ∃ after,
      before.submit ⟨"pwm", .str "rb0", "main", 3, none, none, none⟩ =
        ({ registry := after }, false) := by
    subst start
    exact ⟨_, rfl⟩
  refine ⟨before, after, start, call, (first_claim_wins start call).2.1.mpr ?_⟩
  have holds : fresh.Holder [⟨"I2C", .str "B0", "main", 1, none, none, none⟩,
      ⟨"GPIO", .int 5, "main", 2, none, none, none⟩] { port := .b, number := 0 }
      ⟨"GPIO", .int 5, "main", 2, none, none, none⟩ :=
    ⟨[⟨"I2C", .str "B0", "main", 1, none, none, none⟩], [], rfl, rfl, rfl⟩
  exact ⟨.pwm, _, _, ⟨rfl, rfl, rfl⟩, holds⟩

end Registry

end PinBudget
