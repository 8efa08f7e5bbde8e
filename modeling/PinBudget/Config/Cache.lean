import PinBudget.Config.Override
import PinBudget.Disk.Basic
import PinBudget.Json.Parser

/-!
Loading configurations. The configurations last used are kept by the text of their path, so that a
file is not read again; a failure is not kept.
-/
namespace PinBudget

/-- The configurations last used, the latest first. No path stands for the standard one. -/
structure ConfigCache where
  entries : List (Option String × Config) := []

namespace ConfigCache

def capacity : Nat := 8

def touch (cache : ConfigCache) (key : Option String) (config : Config) : ConfigCache :=
  let others := cache.entries.filter fun entry => entry.1 != key
  { entries := ((key, config) :: others).take capacity }

end ConfigCache

/-- A configuration with how it came about. -/
structure ConfigLoad where
  result : Except Fault Config
  cache : ConfigCache
  readFrom : Option Path := none

namespace Config

/-- The overrides that a file holds. -/
def readOverrides (disk : Disk) (path : Path) : Except Fault Json := do
  match ← Json.parse (← disk.readText path).toList with
  | .obj fields => return .obj fields
  | _ => throw (.configNotObject path.text)

/-- The configuration of a path, or the standard one without a path. -/
def load (disk : Disk) (cache : ConfigCache) (key : Option String) : ConfigLoad :=
  match cache.entries.lookup key with
  | some config => { result := .ok config, cache := cache.touch key config }
  | none =>
    match key with
    | none => { result := .ok standard, cache := cache.touch key standard }
    | some text =>
      let path := Path.ofText text
      match readOverrides disk path with
      | .error fault => { result := .error fault, cache := cache }
      | .ok overrides =>
        match ofJson overrides with
        | .error fault => { result := .error fault, cache := cache, readFrom := some path }
        | .ok config =>
          { result := .ok config, cache := cache.touch key config, readFrom := some path }

end Config

end PinBudget
