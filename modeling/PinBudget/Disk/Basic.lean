import PinBudget.Dict
import PinBudget.Disk.Path
import PinBudget.Text.Lines
import PinBudget.Text.Printable
import PinBudget.Text.Utf8

/-!
The files that the analyzer can see: a tree given by the contents of its files and by its
directories, with a working directory that relative paths start from.
-/
namespace PinBudget

/-- Files with their bytes and directories, each by its components from the top of the tree. -/
structure Disk where
  workingDirectory : List String := []
  files : Dict (List String) (List UInt8) := []
  directories : List (List String) := []

namespace Disk

/-- What stands at the end of a path. The path is blocked by a file where it needs a directory. -/
inductive Entry where
  | file (bytes : List UInt8)
  | directory
  | missing
  | blocked
  | tooLong
  deriving DecidableEq, Repr

variable (disk : Disk)

/-- What stands at a place. The working directory and all above it are always there. -/
private def entryAt (place : List String) : Entry :=
  if place.isPrefixOf disk.workingDirectory || disk.directories.contains place then .directory
  else
    match disk.files.get? place with
    | some bytes => .file bytes
    | none => .missing

/-- The place that one more component leads to. The top of the tree is its own parent. -/
private def enter (place : List String) (part : String) : List String :=
  if part == ".." then place.dropLast else place ++ [part]

def componentLimit : Nat := 255

def pathLimit : Nat := 4095

/-- Follows components from a place. A component is looked at only inside a directory. -/
private def follow (place : List String) : List String → Entry
  | [] => disk.entryAt place
  | part :: rest =>
    match disk.entryAt place with
    | .directory =>
      if componentLimit < part.utf8ByteSize then .tooLong else follow (enter place part) rest
    | .file _ | .blocked => .blocked
    | .missing => .missing
    | .tooLong => .tooLong

/-- The place that a path starts from. -/
private def startOf (path : Path) : List String :=
  if path.root.isEmpty then disk.workingDirectory else []

def find (path : Path) : Entry :=
  if pathLimit < path.text.utf8ByteSize then .tooLong
  else disk.follow (disk.startOf path) path.parts

/-- Whether a path has a null character, which no disk accepts. -/
private def hasNull (path : Path) : Bool :=
  path.parts.any fun part => part.toList.contains '\x00'

/-- Whether a path leads to a directory. One that is too long cannot even be asked about. -/
def isDirectory (path : Path) : Except Fault Bool :=
  if hasNull path then .ok false
  else
    match disk.find path with
    | .directory => .ok true
    | .file _ | .missing | .blocked => .ok false
    | .tooLong => .error (.nameTooLong (Text.quotedString path.text))

def read (path : Path) : Except Fault (List UInt8) :=
  if hasNull path then .error .nullInPath
  else
    let shown := Text.quotedString path.text
    match disk.find path with
    | .file bytes => .ok bytes
    | .directory => .error (.isDirectory shown)
    | .missing => .error (.fileNotFound shown)
    | .blocked => .error (.notDirectory shown)
    | .tooLong => .error (.nameTooLong shown)

/-- The text of a file, with all line breaks read as line feeds. -/
def readText (path : Path) : Except Fault String :=
  match disk.read path with
  | .error fault => .error fault
  | .ok bytes => (Utf8.decode bytes).map fun text => String.ofList (Text.unifyBreaks text)

private def placeOf (path : Path) : List String :=
  path.parts.foldl enter (disk.startOf path)

/-- The entries below a directory, at any depth, whose names end in a suffix; in order. -/
def below (path : Path) (suffix : String) : List Path :=
  let place := disk.placeOf path
  let inside := (disk.files.map Prod.fst ++ disk.directories).filterMap fun entry =>
    if place.isPrefixOf entry && place.length < entry.length then some (entry.drop place.length)
    else none
  let named := inside.filter fun parts => parts.getLast?.any fun name => name.endsWith suffix
  Path.sort (named.map fun parts => { path with parts := path.parts ++ parts })

private def ancestors (place : List String) : List (List String) :=
  ((List.range place.length).map fun depth => place.take depth).filter fun parent =>
    !parent.isEmpty

private def addDirectories (places : List (List String)) : Disk :=
  { disk with
    directories := places.foldl
      (fun known place => if known.contains place then known else known ++ [place])
      disk.directories }

/-- The disk with a file, and with the directories that lead to it. -/
def write (path : Path) (bytes : List UInt8) : Disk :=
  let place := disk.placeOf path
  { disk.addDirectories (ancestors place) with files := disk.files.set place bytes }

/-- The disk with a directory, and with those that lead to it. -/
def makeDirectory (path : Path) : Disk :=
  let place := disk.placeOf path
  disk.addDirectories (ancestors place ++ if place.isEmpty then [] else [place])

/-- The disk without a file, or without a directory and all that it holds. -/
def remove (path : Path) : Disk :=
  let place := disk.placeOf path
  { disk with
    files := disk.files.filter fun entry => !place.isPrefixOf entry.1
    directories := disk.directories.filter fun entry => !place.isPrefixOf entry }

end Disk

end PinBudget
