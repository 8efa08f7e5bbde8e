import PinBudget.Estimate.Memory
import PinBudget.Estimate.Timing
import PinBudget.Proofs.Outcome
import PinBudget.Proofs.Usage.Discretion

/-!
What quoted texts say does not matter to the shape of a source. Where two sources differ only in
quoted content, the same constructions and method calls are found, and the estimates see the same
arrays, hashes, objects, delays, timers and loops.
-/
namespace PinBudget

open Source

variable {first second : String}

/-- The sources have as many lines, and the code of each differs at most in quoted content. -/
def SameShape (first second : String) : Prop :=
  List.Forall₂ (Cleaned SameCode) (Text.lines first.toList) (Text.lines second.toList)

instance (first second : String) : Decidable (SameShape first second) :=
  have (line partner : List Char) : Decidable (Cleaned SameCode line partner) :=
    inferInstanceAs (Decidable (SameCode _ _))
  inferInstanceAs (Decidable (List.Forall₂ _ _ _))

theorem map_eq_of_forall₂ {α β γ : Type} {related : α → β → Prop} {items : List α}
    {others : List β} {f : α → γ} {g : β → γ} (matched : List.Forall₂ related items others)
    (each : ∀ item other, related item other → f item = g other) : items.map f = others.map g := by
  induction matched with
  | nil => rfl
  | cons head _ ih => rw [List.map_cons, List.map_cons, each _ _ head, ih]

namespace SameShape

theorem codeLines (same : SameShape first second) :
    List.Forall₂ (CodeLine.Matches SameCode) (codeLines first.toList) (codeLines second.toList) :=
  SameCode.joinable.codeLinesFrom 1 same

theorem extraction_agrees (same : SameShape first second) {sourceId : String}
    {extraction other : Extraction} (extracted : extract first sourceId = .ok extraction)
    (extractedOther : extract second sourceId = .ok other) : extraction.Agrees other := by
  have matched := SameCode.joinable.statementsFrom 1 same
  obtain ⟨quiet, rfl⟩ := extract_eq_ok.mp extracted
  obtain ⟨quietOther, rfl⟩ := extract_eq_ok.mp extractedOther
  exact (Extraction.Agrees.refl { sourceId := sourceId }).addStatements matched quiet quietOther

end SameShape

/-- What a line shows outside its quoted texts. -/
def LineMemory.veiled (shown : LineMemory) : LineMemory :=
  { shown with assigned := none, texts := [] }

theorem LineMemory.veiled_ofCode {code partner : CodeLine} (matched : code.Matches SameCode partner) :
    (LineMemory.ofCode code).veiled = (LineMemory.ofCode partner).veiled := by
  simp only [LineMemory.ofCode, LineMemory.veiled, matched.number, matched.text.mask_eq]

theorem LineTiming.ofCode_eq {code partner : CodeLine} (matched : code.Matches SameCode partner)
    (calls : Nat → List String) :
    LineTiming.ofCode calls code = LineTiming.ofCode calls partner := by
  simp only [LineTiming.ofCode, matched.number, matched.text.mask_eq]

theorem MemoryEstimate.shown_ofLines {config : Config} {sourceId : String} {lines : List LineMemory}
    {estimate : MemoryEstimate} (estimated : ofLines config sourceId lines = .ok estimate) :
    estimate.arrayLines = (lines.filter LineMemory.hasArray).map LineMemory.line ∧
      estimate.hashLines = (lines.filter LineMemory.hasHash).map LineMemory.line ∧
      estimate.objects = lines.flatMap fun shown =>
        shown.objects.map fun name => (shown.line, String.ofList name) := by
  obtain ⟨ram, _, estimated⟩ := bind_eq_ok.mp estimated
  obtain ⟨texts, _, estimated⟩ := bind_eq_ok.mp estimated
  obtain ⟨ramNotes, _, estimated⟩ := bind_eq_ok.mp estimated
  obtain ⟨registerNotes, _, estimated⟩ := bind_eq_ok.mp estimated
  obtain ⟨textNotes, _, estimated⟩ := bind_eq_ok.mp estimated
  cases estimated
  exact ⟨rfl, rfl, rfl⟩

namespace SameShape

theorem memory_shown (same : SameShape first second) {config : Config} {sourceId : String}
    {estimate other : MemoryEstimate}
    (estimated : MemoryEstimate.ofSource config first sourceId = .ok estimate)
    (estimatedOther : MemoryEstimate.ofSource config second sourceId = .ok other) :
    estimate.arrayLines = other.arrayLines ∧ estimate.hashLines = other.hashLines ∧
      estimate.objects = other.objects := by
  have veiled : (MemoryEstimate.linesOf first).map LineMemory.veiled =
      (MemoryEstimate.linesOf second).map LineMemory.veiled := by
    rw [MemoryEstimate.linesOf, MemoryEstimate.linesOf, List.map_map, List.map_map]
    exact map_eq_of_forall₂ same.codeLines fun _ _ matched => LineMemory.veiled_ofCode matched
  have arrays := congrArg (fun lines => (lines.filter LineMemory.hasArray).map LineMemory.line) veiled
  have hashes := congrArg (fun lines => (lines.filter LineMemory.hasHash).map LineMemory.line) veiled
  have objects := congrArg (fun lines => lines.flatMap fun (shown : LineMemory) =>
    shown.objects.map fun name => (shown.line, String.ofList name)) veiled
  simp only [List.filter_map, List.map_map, List.flatMap_map] at arrays hashes objects
  obtain ⟨arrayLines, hashLines, classes⟩ := MemoryEstimate.shown_ofLines estimated
  obtain ⟨otherArrays, otherHashes, otherClasses⟩ := MemoryEstimate.shown_ofLines estimatedOther
  exact ⟨arrayLines.trans (arrays.trans otherArrays.symm),
    hashLines.trans (hashes.trans otherHashes.symm),
    classes.trans (objects.trans otherClasses.symm)⟩

theorem timing_eq (same : SameShape first second) (config : Config) (sourceId : String)
    (calls : List MethodCall) (responseLimit : Option Number) :
    TimingEstimate.ofSource config first sourceId calls responseLimit =
      TimingEstimate.ofSource config second sourceId calls responseLimit := by
  have shown (attributed : Nat → List String) :
      (Source.codeLines first.toList).map (LineTiming.ofCode attributed) =
        (Source.codeLines second.toList).map (LineTiming.ofCode attributed) :=
    map_eq_of_forall₂ same.codeLines fun _ _ matched => LineTiming.ofCode_eq matched attributed
  rw [TimingEstimate.ofSource, TimingEstimate.ofSource]
  simp only [shown]

end SameShape

/-- Where two sources differ only in what their quoted texts say, extraction finds the same
constructions, calls, holders and names in both, and the estimates report the same arrays, hashes,
objects and the same timing. -/
theorem quoted_content_ignored (first second sourceId : String) (same : SameShape first second) :
    (∀ extraction other, extract first sourceId = .ok extraction →
      extract second sourceId = .ok other →
        extraction.events.map Event.place = other.events.map Event.place ∧
          extraction.methodCalls = other.methodCalls ∧ extraction.holders = other.holders ∧
          extraction.bindings.map Prod.fst = other.bindings.map Prod.fst) ∧
      (∀ config estimate other, MemoryEstimate.ofSource config first sourceId = .ok estimate →
        MemoryEstimate.ofSource config second sourceId = .ok other →
          estimate.arrayLines = other.arrayLines ∧ estimate.hashLines = other.hashLines ∧
            estimate.objects = other.objects) ∧
      ∀ config calls responseLimit,
        TimingEstimate.ofSource config first sourceId calls responseLimit =
          TimingEstimate.ofSource config second sourceId calls responseLimit := by
  refine ⟨?_, ?_, ?_⟩
  · intro extraction other extracted extractedOther
    have agrees := same.extraction_agrees extracted extractedOther
    exact ⟨agrees.events, agrees.methodCalls, agrees.holders, agrees.names⟩
  · intro config estimate other estimated estimatedOther
    exact same.memory_shown estimated estimatedOther
  · intro config calls responseLimit
    exact same.timing_eq config sourceId calls responseLimit

theorem quoted_content_ignored_of_code_in_quotes :
    let first := "note = \"SPI.new(1)\"\nled = GPIO.new(\n  \"B7\")\nled.write(1)\n"
    let second := "note = \"[1, 2] # \x7d\"\nled = GPIO.new(\n  \"X)\")\nled.write(1)\n"
    SameShape first second ∧
      (∀ extraction other, extract first "main" = .ok extraction →
        extract second "main" = .ok other →
          extraction.events.map Event.place = other.events.map Event.place ∧
            extraction.methodCalls = other.methodCalls ∧ extraction.holders = other.holders ∧
            extraction.bindings.map Prod.fst = other.bindings.map Prod.fst) ∧
      (∀ config estimate other, MemoryEstimate.ofSource config first "main" = .ok estimate →
        MemoryEstimate.ofSource config second "main" = .ok other →
          estimate.arrayLines = other.arrayLines ∧ estimate.hashLines = other.hashLines ∧
            estimate.objects = other.objects) ∧
      ∀ config calls responseLimit,
        TimingEstimate.ofSource config first "main" calls responseLimit =
          TimingEstimate.ofSource config second "main" calls responseLimit := by
  intro first second
  have same : SameShape first second := by decide +kernel
  exact ⟨same, quoted_content_ignored first second "main" same⟩

end PinBudget
