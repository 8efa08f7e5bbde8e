import PinBudget.Analysis.Project
import PinBudget.Disk.Basic

/-!
Analyzing files: reading a source with its compiled bytecode, one file at a time or as a project.
-/
namespace PinBudget

structure Loaded where
  sourceId : String
  text : String
  bytecode : Option (Path × List UInt8)

/-- Why a source could not be read. -/
structure LoadFailure where
  sourceId : String
  message : String
  cause : Fault

/-- What reading a source can lead to. -/
inductive Load where
  | loaded (source : Loaded)
  | failed (failure : LoadFailure)
  | stopped (fault : Fault)

namespace Load

def bytecodeSuffix : String := ".mrb"

/-- The bytecode beside a source, if it is a file. A path that is too long cannot be asked
about. -/
private def bytecodeOf (disk : Disk) (path : Path) : Except Fault (Option (Path × List UInt8)) :=
  let compiled := path.withSuffix bytecodeSuffix
  match disk.find compiled with
  | .file bytes => .ok (some (compiled, bytes))
  | .directory | .missing | .blocked => .ok none
  | .tooLong => .error (.nameTooLong (Text.quotedString compiled.text))

def ofPath (disk : Disk) (path : Path) (sourceId : String) (wantsBytecode : Bool) : Load :=
  match disk.readText path with
  | .ok text =>
    match if wantsBytecode then bytecodeOf disk path else .ok none with
    | .ok bytecode => .loaded { sourceId := sourceId, text := text, bytecode := bytecode }
    | .error fault => .stopped fault
  | .error .nullInPath => .stopped .nullInPath
  | .error (.fileNotFound shown) =>
    .failed ⟨sourceId, s!"File not found: {path.text}", .fileNotFound shown⟩
  | .error fault => .failed ⟨sourceId, s!"Cannot read file: {path.text}", fault⟩

/-- The analysis of what was read. A source that cannot be read does not stop the others. -/
def analyze (options : AnalysisOptions) : Load → Except Fault FileAnalysis
  | loaded source =>
    FileAnalysis.ofSource options source.text source.sourceId (source.bytecode.map Prod.snd)
  | failed failure => .ok (FileAnalysis.unreadable failure.sourceId failure.message)
  | stopped fault => .error fault

end Load

/-- Analyzes a file. Its path is its identifier unless another one is given. -/
def FileAnalysis.ofFile (disk : Disk) (options : AnalysisOptions) (path : Path)
    (sourceId : Option String) : Except Fault FileAnalysis :=
  let name := (sourceId.filter fun text => !text.isEmpty).getD path.text
  (Load.ofPath disk path name options.estimate).analyze options

/-- Analyzes files one by one and merges them. -/
def Project.ofFiles (disk : Disk) (options : AnalysisOptions) (paths : List Path) :
    Except Fault Project := do
  let files ← paths.mapM fun path => FileAnalysis.ofFile disk options path none
  Project.merge options.config files

end PinBudget
