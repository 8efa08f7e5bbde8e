import PinBudget.CommandLine.Run

/-!
The program: it reads the files that the command line names, carries the command line out on them
and writes what comes of it.
-/
namespace PinBudget.Main

def workingDirectory : IO Path :=
  return Path.ofText (← IO.currentDir).toString

/-- The disk with what stands at a path: a file with its bytes, or a directory. What cannot be read
is left out. -/
def addEntry (disk : Disk) (text : String) : IO Disk := do
  let entry := (← IO.currentDir) / text
  let path := Path.ofText entry.toString
  if ← entry.isDir then return disk.makeDirectory path
  else
    try
      return disk.write path (← IO.FS.readBinFile entry).toList
    catch _ => return disk

/-- The disk with a path, with all that stands below it, and with the bytecode beside it. -/
def addTree (disk : Disk) (text : String) : IO Disk := do
  let entry := (← IO.currentDir) / text
  let mut reached ← addEntry disk text
  if ← entry.isDir then
    for found in ← entry.walkDir do
      reached ← addEntry reached found.toString
  else
    let compiled := (Path.ofText text).withSuffix Load.bytecodeSuffix
    reached ← addEntry reached compiled.text
  return reached

def snapshot (arguments : List String) : IO Disk := do
  let start : Disk := { workingDirectory := (← workingDirectory).parts }
  match CommandLine.parse arguments with
  | .ok { command := .check options, .. } =>
    (options.paths ++ options.config.toList).foldlM addTree start
  | _ => return start

/-- The exit code of an ending, after the messages that it calls for. -/
def finish : CommandLine.Ending → IO UInt32
  | .exit code => return .ofNat code
  | .usage code => do
    IO.eprintln ""
    return .ofNat code
  | .stopped fault => do
    IO.eprintln fault.message
    return 1
  | .serve host port => do
    IO.eprintln s!"pinguard: cannot listen on {host}:{port}"
    return 2

end PinBudget.Main

def main (arguments : List String) : IO UInt32 := do
  let disk ← PinBudget.Main.snapshot arguments
  let (outcome, _) := PinBudget.CommandLine.run disk {} arguments
  IO.print outcome.output
  IO.eprint outcome.messages
  PinBudget.Main.finish outcome.ending
