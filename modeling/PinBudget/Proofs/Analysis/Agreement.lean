import PinBudget.Analysis.Project
import PinBudget.Proofs.Outcome

/-!
Verdicts and errors agree. A source is valid if it has no errors; a project is valid if it has none,
and then no source has failed and no pin is held twice. Totals add warnings only, so the
configuration that they are compared with does not enter the verdict.
-/
namespace PinBudget

theorem FileAnalysis.valid_iff (file : FileAnalysis) : file.valid = true ↔ file.errors = [] := by
  obtain ⟨_, _, allocation, estimate, loadError⟩ := file
  cases loadError <;> cases estimate <;>
    simp [valid, errors, Allocation.ok, ResourceEstimate.ok]

theorem FileAnalysis.all_valid_iff (files : List FileAnalysis) :
    files.all valid = true ↔ ∀ file ∈ files, file.errors = [] := by
  simp only [List.all_eq_true, valid_iff]

namespace ResourceEstimate

variable {config : Config} {sourceId : String}

theorem severity_projectRamFindings {ram : Number} {findings : List Finding}
    (found : projectRamFindings config sourceId ram = .ok findings) :
    ∀ finding ∈ findings, finding.severity = .warning := by
  obtain ⟨_, _, found⟩ := bind_eq_ok.mp found
  obtain ⟨limit, _, found⟩ := bind_eq_ok.mp found
  split at found
  · obtain ⟨_, _, found⟩ := bind_eq_ok.mp found
    obtain ⟨_, _, found⟩ := bind_eq_ok.mp found
    obtain ⟨_, _, found⟩ := bind_eq_ok.mp found
    cases found
    simp
  · obtain ⟨_, _, found⟩ := bind_eq_ok.mp found
    obtain ⟨_, _, found⟩ := bind_eq_ok.mp found
    split at found
    · obtain ⟨_, _, found⟩ := bind_eq_ok.mp found
      cases found
      simp
    · cases found
      simp

theorem severity_projectTimeFindings {execution : Float} {findings : List Finding}
    (found : projectTimeFindings config sourceId execution = .ok findings) :
    ∀ finding ∈ findings, finding.severity = .warning := by
  obtain ⟨above, _, found⟩ := bind_eq_ok.mp found
  split at found <;> cases found <;> simp

/-- Totals never make a project invalid. -/
theorem severity_combine {estimates : List ResourceEstimate} {total : ResourceEstimate}
    (combined : combine config sourceId estimates = .ok total) :
    ∀ finding ∈ total.findings, finding.severity = .warning := by
  obtain ⟨ram, _, combined⟩ := bind_eq_ok.mp combined
  obtain ⟨ramNotes, ramFound, combined⟩ := bind_eq_ok.mp combined
  obtain ⟨timeNotes, timeFound, combined⟩ := bind_eq_ok.mp combined
  cases combined
  intro finding member
  rcases List.mem_append.mp member with early | late
  · exact severity_projectRamFindings ramFound finding early
  · exact severity_projectTimeFindings timeFound finding late

end ResourceEstimate

namespace Project

theorem valid_iff (project : Project) : project.valid = true ↔ project.errors = [] := by
  simp only [valid, errors, Bool.and_eq_true, FileAnalysis.all_valid_iff, List.isEmpty_iff,
    List.append_eq_nil_iff, List.flatMap_eq_nil_iff, List.map_eq_nil_iff]

theorem errors_eq_nil_iff (project : Project) :
    project.errors = [] ↔ project.failedFiles = [] ∧ project.conflicts = [] := by
  simp [← valid_iff, valid, failedFiles]

/-- A merge keeps the sources; what it finds between them depends on their pins alone. -/
theorem of_merge {config : Config} {files : List FileAnalysis} {project : Project}
    (merged : merge config files = .ok project) :
    project.files = files ∧
      project.conflicts = Conflict.among (files.map FileAnalysis.allocation) := by
  rw [merge] at merged
  split at merged
  · cases merged
    exact ⟨rfl, rfl⟩
  · obtain ⟨total, _, merged⟩ := bind_eq_ok.mp merged
    cases merged
    exact ⟨rfl, rfl⟩

theorem verdict_of_merge {config changed : Config} {files : List FileAnalysis}
    {project other : Project} (merged : merge config files = .ok project)
    (remerged : merge changed files = .ok other) :
    project.valid = other.valid ∧ project.errors = other.errors ∧
      project.conflicts = other.conflicts := by
  obtain ⟨sources, conflicts⟩ := of_merge merged
  obtain ⟨same, sameConflicts⟩ := of_merge remerged
  simp only [valid, errors, sources, conflicts, same, sameConflicts, and_self]

end Project

end PinBudget
