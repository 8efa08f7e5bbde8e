/-!
Paths as users write them. Empty and single-dot components say nothing and are dropped; double dots
stay, since what they lead to is up to the disk.
-/
namespace PinBudget

/-- A path: the slashes at its front and its components. -/
structure Path where
  root : String := ""
  parts : List String
  deriving DecidableEq, Repr

namespace Path

/-- The slashes at the front that count: two exactly stay two, more are one. -/
private def rootOf (text : List Char) : String :=
  match (text.takeWhile (· == '/')).length with
  | 0 => ""
  | 2 => "//"
  | _ => "/"

def ofText (text : String) : Path :=
  { root := rootOf text.toList
    parts := ((text.toList.splitOn '/').map String.ofList).filter fun part =>
      part != "" && part != "." }

/-- The path as text; the empty path is a dot. -/
def text (path : Path) : String :=
  if path.root.isEmpty && path.parts.isEmpty then "."
  else path.root ++ "/".intercalate path.parts

/-- A name without its suffix: what stands behind the last dot, unless that dot is the first or the
last character. -/
def stem (name : String) : String :=
  let (behind, rest) := name.toList.reverse.span (· != '.')
  match rest with
  | _ :: before => if behind.isEmpty || before.isEmpty then name else String.ofList before.reverse
  | [] => name

def withSuffix (path : Path) (suffix : String) : Path :=
  match path.parts.getLast? with
  | some name => { path with parts := path.parts.dropLast ++ [stem name ++ suffix] }
  | none => path

private def inOrder : List String → List String → Bool
  | [], _ => true
  | _ :: _, [] => false
  | a :: as, b :: bs => if a == b then inOrder as bs else a < b

def sort (paths : List Path) : List Path :=
  paths.mergeSort fun first second => inOrder first.parts second.parts

end Path

end PinBudget
