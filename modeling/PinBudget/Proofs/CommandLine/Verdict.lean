import PinBudget.CommandLine.Run
import PinBudget.Proofs.Analysis.Agreement

/-!
The exit code of `check`. It tells whether the sources have errors, as one project or one by one, in
whatever form the results are printed.
-/
namespace PinBudget.CommandLine

/-- The ending tells whether the sources have errors: together as a project, or each on its own. -/
def Ending.IsVerdictOn (ending : Ending) (disk : Disk) (options : CheckOptions) (config : Config)
    (sources : List Path) : Prop :=
  ∃ files,
    sources.mapM (fun path => FileAnalysis.ofFile disk (options.settings config) path none) =
      .ok files ∧
    if options.project then
      ∃ project, Project.merge config files = .ok project ∧
        ending = .exit (if project.errors = [] then exitValid else exitInvalid)
    else
      ending = .exit (if ∀ file ∈ files, file.errors = [] then exitValid else exitInvalid)

variable {disk : Disk} {cache : ConfigCache} {config : Config} {options : CheckOptions}
variable {verbosity : Nat} {arguments : List String} {sources : List Path}

theorem analyzeAll_snd (settings : AnalysisOptions) (loads : List Load) :
    (analyzeAll settings loads).2 = loads.mapM (Load.analyze settings) := by
  induction loads with
  | nil => rfl
  | cons load rest ih =>
    rw [analyzeAll, List.mapM_cons]
    cases load.analyze settings with
    | error fault => rfl
    | ok analysis =>
      rw [← ih]
      obtain ⟨further, analyses⟩ := analyzeAll settings rest
      cases analyses <;> rfl

/-- Printing either stops a run or leaves the exit code to the verdict. -/
theorem outcome_ending {printing : Printing} {messages : String} {valid : Bool}
    (going : ∀ fault, (outcome printing messages valid).ending ≠ .stopped fault) :
    (outcome printing messages valid).ending = .exit (verdictCode valid) := by
  unfold outcome at going ⊢
  cases met : printing.fault with
  | none => rfl
  | some fault =>
    rw [met] at going
    exact absurd rfl (going fault)

theorem verdictCode_eq {valid : Bool} {clean : Prop} [Decidable clean]
    (agrees : valid = true ↔ clean) :
    verdictCode valid = if clean then exitValid else exitInvalid := by
  simp only [verdictCode, agrees]

theorem runProject_ending {entries : List JournalEntry} {files : List FileAnalysis}
    (going : ∀ fault, (runProject options verbosity config entries files).ending ≠ .stopped fault) :
    ∃ project, Project.merge config files = .ok project ∧
      (runProject options verbosity config entries files).ending =
        .exit (if project.errors = [] then exitValid else exitInvalid) := by
  unfold runProject at going ⊢
  cases merged : Project.merge config files with
  | error fault =>
    rw [merged] at going
    exact absurd rfl (going fault)
  | ok project =>
    simp only [merged] at going ⊢
    exact ⟨project, rfl, by rw [outcome_ending going, verdictCode_eq project.valid_iff]⟩

theorem runSources_ending {before : List JournalEntry}
    (going : ∀ fault,
      (runSources disk options verbosity config before sources).ending ≠ .stopped fault) :
    (runSources disk options verbosity config before sources).ending.IsVerdictOn disk options config
      sources := by
  have analyzed := analyzeAll_snd (options.settings config)
    (sources.map fun path => Load.ofPath disk path path.text options.estimate)
  rw [List.mapM_map] at analyzed
  unfold runSources at going ⊢
  cases reached : analyzeAll (options.settings config)
      (sources.map fun path => Load.ofPath disk path path.text options.estimate) with
  | mk entries result =>
    rw [reached] at analyzed
    simp only [reached] at going ⊢
    cases result with
    | error fault => exact absurd rfl (going fault)
    | ok files =>
      refine ⟨files, analyzed.symm, ?_⟩
      cases joined : options.project with
      | true =>
        simp only [joined, if_true] at going ⊢
        exact runProject_ending going
      | false =>
        simp only [joined, Bool.false_eq_true, if_false] at going ⊢
        rw [outcome_ending going, verdictCode_eq (FileAnalysis.all_valid_iff files)]

/-- What `check` ends with, once a configuration and sources are there and no fault stops it. -/
theorem run_check_ending (parsed : parse arguments = .ok ⟨verbosity, .check options⟩)
    (loaded : (Config.load disk cache options.config).result = .ok config)
    (collected : collectSources disk options.paths = .ok sources) (given : sources ≠ [])
    (going : ∀ fault, (run disk cache arguments).1.ending ≠ .stopped fault) :
    (run disk cache arguments).1.ending.IsVerdictOn disk options config sources := by
  obtain ⟨source, rest, rfl⟩ := List.exists_cons_of_ne_nil given
  simp only [run, parsed, runCheck, loaded, collected] at going ⊢
  exact runSources_ending going

/-- Verdicts agree with errors at every level: for one source, for a project, whose totals and
configuration add no error, and for the exit code of `check`, however its results are printed. -/
theorem verdicts_agree :
    (∀ file : FileAnalysis, file.valid = true ↔ file.errors = []) ∧
      (∀ config files project, Project.merge config files = .ok project →
        (project.valid = true ↔ project.errors = []) ∧
          (project.errors = [] ↔ project.failedFiles = [] ∧ project.conflicts = [])) ∧
      (∀ config sourceId estimates total,
        ResourceEstimate.combine config sourceId estimates = .ok total →
          ∀ finding ∈ total.findings, finding.severity = .warning) ∧
      (∀ config changed files project other, Project.merge config files = .ok project →
        Project.merge changed files = .ok other →
          project.valid = other.valid ∧ project.errors = other.errors ∧
            project.conflicts = other.conflicts) ∧
      ∀ disk cache arguments verbosity options json config sources,
        parse arguments = .ok ⟨verbosity, .check { options with json := json }⟩ →
        (Config.load disk cache options.config).result = .ok config →
        collectSources disk options.paths = .ok sources → sources ≠ [] →
        (∀ fault, (run disk cache arguments).1.ending ≠ .stopped fault) →
          (run disk cache arguments).1.ending.IsVerdictOn disk options config sources := by
  refine ⟨FileAnalysis.valid_iff, ?_, ?_, ?_, ?_⟩
  · intro _ _ project _
    exact ⟨project.valid_iff, project.errors_eq_nil_iff⟩
  · intro _ _ _ _ combined
    exact ResourceEstimate.severity_combine combined
  · intro _ _ _ _ _ merged remerged
    exact Project.verdict_of_merge merged remerged
  · intro _ _ _ _ _ _ _ _ parsed loaded collected given going
    have verdict := run_check_ending parsed loaded collected given going
    exact verdict

theorem verdicts_agree_on_shared_pin :
    let source := "led = GPIO.new(\"B7\")\n".toList.map fun c => UInt8.ofNat c.toNat
    let disk : Disk := { files := [(["a.rb"], source), (["b.rb"], source)] }
    let options : CheckOptions :=
      { paths := ["a.rb", "b.rb"], project := true, estimate := false }
    let arguments := ["check", "--project", "--no-estimate", "a.rb", "b.rb"]
    let missing := FileAnalysis.unreadable "c.rb" "File not found: c.rb"
    let full : Config :=
      { Config.standard with memory :=
          (Config.standard.memory.set .ramWarningRatio (.nat 1)).set .ramErrorRatio (.nat 1) }
    (run disk {} arguments).1.ending = .exit exitInvalid ∧
      (run disk {} arguments).1.ending.IsVerdictOn disk options Config.standard
        [Path.ofText "a.rb", Path.ofText "b.rb"] ∧
      (∃ project other, Project.merge Config.standard [missing] = .ok project ∧
        Project.merge full [missing] = .ok other ∧ project.failedFiles = ["c.rb"] ∧
        (project.errors = [] ↔ project.failedFiles = [] ∧ project.conflicts = []) ∧
        project.errors = other.errors) ∧
      ∃ total, ResourceEstimate.combine full Project.totalsId
          [{ sourceId := "a.rb", ramBytes := .int 6000 }] = .ok total ∧
        ∀ finding ∈ total.findings, finding.severity = .warning := by
  intro source disk options arguments missing full
  have ending : (run disk {} arguments).1.ending = .exit exitInvalid := by decide +kernel
  have parsed : parse arguments = .ok ⟨0, .check options⟩ := by with_unfolding_all rfl
  have collected : collectSources disk options.paths =
      .ok [Path.ofText "a.rb", Path.ofText "b.rb"] := by with_unfolding_all rfl
  have going (fault : Fault) : (run disk {} arguments).1.ending ≠ .stopped fault := by
    rw [ending]
    exact nofun
  obtain ⟨_, sound, modest, same, verdict⟩ := verdicts_agree
  refine ⟨ending, verdict disk {} arguments 0 options false Config.standard _ parsed rfl collected
    (List.cons_ne_nil _ _) going, ?_, ?_⟩
  · exact ⟨_, _, rfl, rfl, rfl, (sound Config.standard [missing] _ rfl).2,
      (same Config.standard full [missing] _ _ rfl rfl).2.1⟩
  · have timed (execution : Float) : ∃ notes,
        ResourceEstimate.projectTimeFindings full Project.totalsId execution = .ok notes := by
      have limited : Config.above (.float execution) (full.timing .executionLimit) =
          .ok ((Number.float 10000.0).less (.float execution)) := rfl
      rw [ResourceEstimate.projectTimeFindings, limited]
      cases (Number.float 10000.0).less (.float execution) with
      | true => exact ⟨_, rfl⟩
      | false => exact ⟨_, rfl⟩
    obtain ⟨notes, timed⟩ := timed (0.0 + 0.0)
    obtain ⟨total, combined⟩ : ∃ total, ResourceEstimate.combine full Project.totalsId
        [{ sourceId := "a.rb", ramBytes := .int 6000 }] = .ok total :=
      ⟨_, bind_eq_ok.mpr ⟨.int 6000, rfl, bind_eq_ok.mpr ⟨[], rfl,
        bind_eq_ok.mpr ⟨notes, timed, rfl⟩⟩⟩⟩
    exact ⟨total, combined, modest full _ _ total combined⟩

end PinBudget.CommandLine
