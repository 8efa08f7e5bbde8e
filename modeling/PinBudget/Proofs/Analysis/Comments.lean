import PinBudget.Estimate.Memory
import PinBudget.Estimate.Timing
import PinBudget.Proofs.Source.Cleaning
import PinBudget.Proofs.Source.Correspondence
import PinBudget.Proofs.Text.Lines

/-!
Comments do not matter. Extraction and estimates see of each line its code alone, so a comment that
is added behind a line changes none of them, whatever it says and wherever the line stands.
-/
namespace PinBudget

open Source

variable {first second : String}

/-- The sources have the same code, line by line. -/
def SameLines (first second : String) : Prop :=
  List.Forall₂ (Cleaned Eq) (Text.lines first.toList) (Text.lines second.toList)

namespace SameLines

theorem extract_eq (same : SameLines first second) (sourceId : String) :
    extract first sourceId = extract second sourceId := by
  have scanned : scanSource first sourceId = scanSource second sourceId := by
    rw [scanSource, scanSource, Extraction.feed, Extraction.feed, statements, statements,
      statementsFrom_congr 1 same]
  rw [extract, extract, scanned]

theorem codeLines_eq (same : SameLines first second) :
    codeLines first.toList = codeLines second.toList :=
  codeLinesFrom_congr 1 same

theorem memory_eq (same : SameLines first second) (config : Config) (sourceId : String) :
    MemoryEstimate.ofSource config first sourceId =
      MemoryEstimate.ofSource config second sourceId := by
  rw [MemoryEstimate.ofSource, MemoryEstimate.ofSource, MemoryEstimate.linesOf,
    MemoryEstimate.linesOf, same.codeLines_eq]

theorem timing_eq (same : SameLines first second) (config : Config) (sourceId : String)
    (calls : List MethodCall) (responseLimit : Option Number) :
    TimingEstimate.ofSource config first sourceId calls responseLimit =
      TimingEstimate.ofSource config second sourceId calls responseLimit := by
  rw [TimingEstimate.ofSource, TimingEstimate.ofSource, same.codeLines_eq]

end SameLines

/-- A comment behind one line of a source leaves the code of all lines as it is. -/
theorem sameLines_comment {before after : List (List Char)} {line comment : List Char}
    (unbroken : ∀ text ∈ before ++ line :: comment :: after, ∀ c ∈ text,
      Text.isLineBreak c = false)
    (ready : EndsOutside line ∨ HasComment line) :
    SameLines (String.ofList (Text.ofLines (before ++ (line ++ ' ' :: '#' :: comment) :: after)))
      (String.ofList (Text.ofLines (before ++ line :: after))) := by
  simp only [List.mem_append, List.mem_cons] at unbroken
  have plain : ∀ text ∈ before ++ line :: after, ∀ c ∈ text, Text.isLineBreak c = false := by
    intro text member
    simp only [List.mem_append, List.mem_cons] at member
    exact unbroken text (member.imp_right (Or.imp_right Or.inr))
  have commented : ∀ text ∈ before ++ (line ++ ' ' :: '#' :: comment) :: after, ∀ c ∈ text,
      Text.isLineBreak c = false := by
    intro text member
    simp only [List.mem_append, List.mem_cons] at member
    rcases member with early | rfl | late
    · exact unbroken text (.inl early)
    · intro c inside
      simp only [List.mem_append, List.mem_cons] at inside
      rcases inside with own | rfl | rfl | remark
      · exact unbroken line (.inr (.inl rfl)) c own
      · decide
      · decide
      · exact unbroken comment (.inr (.inr (.inl rfl))) c remark
    · exact unbroken text (.inr (.inr (.inr late)))
  have alike (lines : List (List Char)) : List.Forall₂ (Cleaned Eq) lines lines :=
    List.forall₂_same.mpr fun _ _ => rfl
  rw [SameLines, String.toList_ofList, String.toList_ofList, Text.lines_ofLines commented,
    Text.lines_ofLines plain]
  exact List.rel_append (alike before) (.cons (cleanLine_append_comment comment ready) (alike after))

/-- A comment behind a line changes neither what is extracted from a source nor its estimates of
memory and time, if the quotes of the line are closed or it has a comment already. The line may
stand in the middle of a call, and the comment may hold quotes, brackets and code. -/
theorem comments_ignored (before after : List (List Char)) (line comment : List Char)
    (unbroken : ∀ text ∈ before ++ line :: comment :: after, ∀ c ∈ text,
      Text.isLineBreak c = false)
    (ready : EndsOutside line ∨ HasComment line) (sourceId : String) :
    let source := String.ofList (Text.ofLines (before ++ line :: after))
    let commented :=
      String.ofList (Text.ofLines (before ++ (line ++ ' ' :: '#' :: comment) :: after))
    extract commented sourceId = extract source sourceId ∧
      (∀ config, MemoryEstimate.ofSource config commented sourceId =
        MemoryEstimate.ofSource config source sourceId) ∧
      ∀ config calls responseLimit,
        TimingEstimate.ofSource config commented sourceId calls responseLimit =
          TimingEstimate.ofSource config source sourceId calls responseLimit := by
  intro source commented
  have same : SameLines commented source := sameLines_comment unbroken ready
  exact ⟨same.extract_eq sourceId, fun config => same.memory_eq config sourceId,
    fun config calls limit => same.timing_eq config sourceId calls limit⟩

theorem comments_ignored_inside_call :
    let source := "led = GPIO.new(\n  \"B7\",\n  1)\n"
    let commented := "led = GPIO.new(\n  \"B7\", # it's \x7d GPIO.new(2) while sleep 5\n  1)\n"
    EndsOutside "  \"B7\",".toList ∧ extract commented "main" = extract source "main" ∧
      (∀ config, MemoryEstimate.ofSource config commented "main" =
        MemoryEstimate.ofSource config source "main") ∧
      ∀ config calls responseLimit,
        TimingEstimate.ofSource config commented "main" calls responseLimit =
          TimingEstimate.ofSource config source "main" calls responseLimit := by
  have outside : EndsOutside "  \"B7\",".toList := by decide
  have unbroken : ∀ text ∈ ["led = GPIO.new(".toList] ++ "  \"B7\",".toList ::
      " it's \x7d GPIO.new(2) while sleep 5".toList :: ["  1)".toList],
      ∀ c ∈ text, Text.isLineBreak c = false := by
    simp only [← List.all_eq_true, ← Bool.not_eq_true']
    decide
  exact ⟨outside, comments_ignored _ _ _ _ unbroken (.inl outside) "main"⟩

end PinBudget
