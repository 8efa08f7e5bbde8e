import PinBudget.Proofs.Config.RoundTrip
import PinBudget.Proofs.Text.Base64
import PinBudget.Service.Response

/-!
Bytecode that is sent with a source. Base64 text is read as the bytes that it spells, and other
ASCII text is refused as unprocessable in the name of the source. Only text beyond ASCII is neither:
it is a failure that no answer is made for.
-/
namespace PinBudget.Service

variable {source : SourceFile} {shown : String} {bytes : List UInt8}

def IsPlain (shown : String) : Prop :=
  ∀ c ∈ shown.toList, c.toNat < 128

instance (shown : String) : Decidable (IsPlain shown) :=
  List.decidableBAll _ _

theorem ascii_of_plain (plain : IsPlain shown) : ∃ mark, Config.ascii shown = .ok mark := by
  rw [Config.ascii, Config.beyondAscii?_eq_none_iff.mpr plain]
  exact ⟨_, rfl⟩

theorem ascii_of_not_plain (beyond : ¬IsPlain shown) :
    ∃ fault, Config.ascii shown = .error fault := by
  rw [Config.ascii]
  cases stretch : Config.beyondAscii? shown.toList with
  | none => exact absurd (Config.beyondAscii?_eq_none_iff.mp stretch) beyond
  | some found => exact ⟨_, rfl⟩

theorem bytecodeOf_of_spells (sent : source.bytecode = some shown)
    (spells : Base64.Spells shown.toList bytes) : bytecodeOf source = .ok (some bytes) := by
  have all : IsPlain shown := spells.toNat_lt
  obtain ⟨mark, plain⟩ := ascii_of_plain all
  simp only [bytecodeOf, sent, plain, Base64.decode?_eq_some_iff.mpr spells]

theorem bytecodeOf_of_plain (sent : source.bytecode = some shown) (plain : IsPlain shown)
    (unread : ∀ bytes, ¬Base64.Spells shown.toList bytes) :
    bytecodeOf source =
      .error (.raised 422 s!"{source.sourceId}: bytecode_b64 is not valid base64") := by
  obtain ⟨mark, ascii⟩ := ascii_of_plain plain
  have undecoded : Base64.decode? shown.toList = none :=
    Option.eq_none_iff_forall_ne_some.mpr fun bytes decoded =>
      unread bytes (Base64.decode?_eq_some_iff.mp decoded)
  simp only [bytecodeOf, sent, ascii, undecoded]

theorem bytecodeOf_of_not_plain (sent : source.bytecode = some shown) (beyond : ¬IsPlain shown) :
    ∃ fault, bytecodeOf source = .error (.failure fault) := by
  obtain ⟨fault, failed⟩ := ascii_of_not_plain beyond
  exact ⟨fault, by simp only [bytecodeOf, sent, failed]⟩

/-- What is sent is read, refused or failed at, one of the three. -/
theorem bytecodeOf_cases (sent : source.bytecode = some shown) :
    (∃ bytes, Base64.Spells shown.toList bytes ∧ bytecodeOf source = .ok (some bytes)) ∨
      (IsPlain shown ∧ (∀ bytes, ¬Base64.Spells shown.toList bytes) ∧
        bytecodeOf source =
          .error (.raised 422 s!"{source.sourceId}: bytecode_b64 is not valid base64")) ∨
      ¬IsPlain shown ∧ ∃ fault, bytecodeOf source = .error (.failure fault) := by
  by_cases plain : IsPlain shown
  · by_cases spelled : ∃ bytes, Base64.Spells shown.toList bytes
    · obtain ⟨bytes, spells⟩ := spelled
      exact .inl ⟨bytes, spells, bytecodeOf_of_spells sent spells⟩
    · have unread : ∀ bytes, ¬Base64.Spells shown.toList bytes := not_exists.mp spelled
      exact .inr (.inl ⟨plain, unread, bytecodeOf_of_plain sent plain unread⟩)
  · exact .inr (.inr ⟨plain, bytecodeOf_of_not_plain sent plain⟩)

theorem bytecodeOf_eq_ok_iff (sent : source.bytecode = some shown) :
    bytecodeOf source = .ok (some bytes) ↔ Base64.Spells shown.toList bytes := by
  rcases bytecodeOf_cases sent with ⟨own, spells, read⟩ | ⟨_, unread, refused⟩ |
    ⟨beyond, fault, failed⟩
  · rw [read, ← Base64.decode?_eq_some_iff, Base64.decode?_eq_some_iff.mpr spells]
    simp
  · rw [refused]
    exact iff_of_false nofun (unread bytes)
  · rw [failed]
    exact iff_of_false nofun fun spells => beyond spells.toNat_lt

theorem bytecodeOf_eq_raised_iff (sent : source.bytecode = some shown) :
    bytecodeOf source =
        .error (.raised 422 s!"{source.sourceId}: bytecode_b64 is not valid base64") ↔
      IsPlain shown ∧ ∀ bytes, ¬Base64.Spells shown.toList bytes := by
  rcases bytecodeOf_cases sent with ⟨own, spells, read⟩ | ⟨plain, unread, refused⟩ |
    ⟨beyond, fault, failed⟩
  · rw [read]
    exact iff_of_false nofun fun both => both.2 own spells
  · exact iff_of_true refused ⟨plain, unread⟩
  · rw [failed]
    exact iff_of_false nofun fun both => beyond both.1

theorem bytecodeOf_eq_failure_iff (sent : source.bytecode = some shown) :
    (∃ fault, bytecodeOf source = .error (.failure fault)) ↔ ¬IsPlain shown := by
  rcases bytecodeOf_cases sent with ⟨own, spells, read⟩ | ⟨plain, _, refused⟩ | ⟨beyond, failed⟩
  · rw [read]
    exact iff_of_false nofun (not_not_intro spells.toNat_lt)
  · rw [refused]
    exact iff_of_false nofun (not_not_intro plain)
  · exact iff_of_true failed beyond

/-- Only text beyond ASCII is neither read nor refused. -/
theorem bytecodeOf_orderly_iff (sent : source.bytecode = some shown) :
    ((∃ bytes, bytecodeOf source = .ok (some bytes)) ∨
        bytecodeOf source =
          .error (.raised 422 s!"{source.sourceId}: bytecode_b64 is not valid base64")) ↔
      IsPlain shown := by
  rcases bytecodeOf_cases sent with ⟨own, spells, read⟩ | ⟨plain, _, refused⟩ |
    ⟨beyond, fault, failed⟩
  · exact iff_of_true (.inl ⟨own, read⟩) spells.toNat_lt
  · exact iff_of_true (.inr refused) plain
  · rw [failed]
    refine iff_of_false ?_ beyond
    rintro (⟨bytes, read⟩ | refused)
    · cases read
    · cases Except.error.inj refused

/-- For every source: without bytecode there is none. Text that is sent for it is read exactly as
the bytes that it spells as base64, and all bytes can be sent. It is refused as unprocessable, in
the name of the source, exactly if it is ASCII and spells none, and a failure exactly if it is not
ASCII; so reading and refusing are all there is exactly for ASCII. -/
theorem bytecode_read_or_refused_iff (source : SourceFile) :
    let refusal := s!"{source.sourceId}: bytecode_b64 is not valid base64"
    (source.bytecode = none → bytecodeOf source = .ok none) ∧
      ∀ shown, source.bytecode = some shown →
        (∀ bytes, bytecodeOf source = .ok (some bytes) ↔ Base64.Spells shown.toList bytes) ∧
        (∀ bytes, shown = String.ofList (Base64.encode bytes) →
          bytecodeOf source = .ok (some bytes)) ∧
        (bytecodeOf source = .error (.raised 422 refusal) ↔
          IsPlain shown ∧ ∀ bytes, ¬Base64.Spells shown.toList bytes) ∧
        ((∃ fault, bytecodeOf source = .error (.failure fault)) ↔ ¬IsPlain shown) ∧
        (((∃ bytes, bytecodeOf source = .ok (some bytes)) ∨
          bytecodeOf source = .error (.raised 422 refusal)) ↔ IsPlain shown) := by
  intro refusal
  refine ⟨fun absent => by simp only [bytecodeOf, absent], ?_⟩
  intro shown sent
  refine ⟨fun bytes => bytecodeOf_eq_ok_iff sent, ?_, bytecodeOf_eq_raised_iff sent,
    bytecodeOf_eq_failure_iff sent, bytecodeOf_orderly_iff sent⟩
  rintro bytes rfl
  apply bytecodeOf_of_spells sent
  rw [String.toList_ofList]
  exact Base64.spells_encode bytes

theorem bytecode_read_or_refused_iff_of_padded :
    let taken : SourceFile := ⟨"b64.rb", "x = 1", some "UklURQ=="⟩
    let refused : SourceFile := ⟨"b64.rb", "x = 1", some "UklURQ="⟩
    bytecodeOf taken = .ok (some [82, 73, 84, 69]) ∧
      bytecodeOf refused =
        .error (.raised 422 "b64.rb: bytecode_b64 is not valid base64") := by
  intro taken refused
  obtain ⟨-, read⟩ := bytecode_read_or_refused_iff taken
  obtain ⟨-, answer⟩ := bytecode_read_or_refused_iff refused
  obtain ⟨-, written, -⟩ := read _ rfl
  obtain ⟨-, -, raised, -⟩ := answer _ rfl
  have undecoded : Base64.decode? "UklURQ=".toList = none := by decide
  have unread : ∀ bytes, ¬Base64.Spells "UklURQ=".toList bytes := by
    intro bytes spells
    rw [← Base64.decode?_eq_some_iff, undecoded] at spells
    cases spells
  exact ⟨written _ (by decide), raised.mpr ⟨by decide, unread⟩⟩

/-- Text beyond ASCII is neither read nor refused. -/
theorem beyond_ascii_not_refused :
    let source : SourceFile := ⟨"b64.rb", "x = 1", some "é"⟩
    (∀ bytes, bytecodeOf source ≠ .ok bytes) ∧
      (∀ status reason, bytecodeOf source ≠ .error (.raised status reason)) := by
  intro source
  have failed : bytecodeOf source = .error (.failure (.notAscii 0 0 "\\xe9")) := by rfl
  constructor
  · intro bytes read
    rw [failed] at read
    cases read
  · intro status reason refused
    rw [failed] at refused
    cases refused

end PinBudget.Service
