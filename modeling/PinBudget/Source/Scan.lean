import PinBudget.Text.Blank

/-!
Quotes and brackets. One pass over a line marks every character with the bracket depth and with
whether it belongs to a quoted text; comments, masks, closing brackets and argument splitting are
all read off these marks.
-/
namespace PinBudget.Source

def isQuote (c : Char) : Bool := c == '"' || c == '\''

def isOpening (c : Char) : Bool := c == '(' || c == '[' || c == '\x7b'

def isClosing (c : Char) : Bool := c == ')' || c == ']' || c == '\x7d'

/-- Where a scan stands between two characters. Unbalanced text can take the depth below zero.
Inside a quoted text, `quote` will close it, and `escaped` protects the next character. -/
structure ScanState where
  depth : Int := 0
  quote : Option Char := none
  escaped : Bool := false
  deriving DecidableEq, Repr

/-- A character with its place: the depth behind it, and whether it is quoted. The quotes
themselves count as quoted. -/
structure Mark where
  char : Char
  depth : Int
  quoted : Bool
  deriving DecidableEq, Repr

namespace ScanState

def step (state : ScanState) (c : Char) : ScanState :=
  match state.quote with
  | some quote =>
    if state.escaped then { state with escaped := false }
    else if c == '\\' then { state with escaped := true }
    else if c == quote then { state with quote := none }
    else state
  | none =>
    if isQuote c then { state with quote := some c }
    else if isOpening c then { state with depth := state.depth + 1 }
    else if isClosing c then { state with depth := state.depth - 1 }
    else state

def mark (state : ScanState) (c : Char) : Mark :=
  { char := c, depth := (state.step c).depth, quoted := state.quote.isSome || isQuote c }

def run (state : ScanState) (text : List Char) : ScanState :=
  text.foldl step state

/-- The marks of a text that begins in a state. -/
def marks (state : ScanState) : List Char → List Mark
  | [] => []
  | c :: rest => state.mark c :: marks (state.step c) rest

end ScanState

/-- The marks of a text on its own. -/
def scan (text : List Char) : List Mark :=
  ScanState.marks {} text

/-- The brackets of a text that are still open at its end. -/
def bracketDepth (text : List Char) : Int :=
  (ScanState.run {} text).depth

namespace Mark

/-- Whether a comment begins here. -/
def startsComment (mark : Mark) : Bool :=
  mark.char == '#' && !mark.quoted

/-- Whether an argument ends here: a comma outside quotes and brackets. -/
def separates (mark : Mark) : Bool :=
  mark.char == ',' && mark.depth == 0 && !mark.quoted

/-- The character with the content of quoted texts blanked out. Quotes stay visible. -/
def masked (mark : Mark) : Char :=
  if mark.quoted && !isQuote mark.char then ' ' else mark.char

end Mark

/-- The line without its comment and the blanks before it. A line without a comment stays as it
is. -/
def stripComment (line : List Char) : List Char :=
  let code := (scan line).takeWhile fun mark => !mark.startsComment
  if code.length == line.length then line else Text.trimRight (code.map Mark.char)

/-- A physical line without the blanks around it and without its comment. -/
def cleanLine (line : List Char) : List Char :=
  stripComment (Text.trim line)

/-- The text with the content of its quoted parts blanked out, of the same length. -/
def mask (text : List Char) : List Char :=
  (scan text).map Mark.masked

/-- The index of the bracket that closes the one at an index. -/
def findClosing? (text : List Char) (opening : Nat) : Option Nat :=
  let marks := scan text
  match marks[opening]? with
  | none => none
  | some start =>
    let closes (mark : Mark) : Bool :=
      !mark.quoted && isClosing mark.char && mark.depth == start.depth - 1
    ((marks.drop (opening + 1)).findIdx? closes).map (· + (opening + 1))

/-- The index of the bracket that closes the one at an index. An index in front of the text stands
outside all brackets, so there it is the bracket that first closes an outermost one. -/
def closingFrom? (text : List Char) (opening : Int) : Option Nat :=
  if opening < 0 then
    (scan text).findIdx? fun mark => !mark.quoted && isClosing mark.char && mark.depth == 0
  else findClosing? text opening.toNat

/-- Cuts marked text at the marks that pass a test; these are dropped. -/
def cutWhere (test : Mark → Bool) : List Mark → List (List Char)
  | [] => [[]]
  | mark :: rest =>
    if test mark then [] :: cutWhere test rest
    else
      match cutWhere test rest with
      | [] => [[mark.char]]
      | piece :: pieces => (mark.char :: piece) :: pieces

/-- The arguments of an argument list: the pieces between its commas, without the blanks around
them and without the empty ones. -/
def splitArguments (text : List Char) : List (List Char) :=
  ((cutWhere Mark.separates (scan text)).map Text.trim).filter fun piece => !piece.isEmpty

theorem ScanState.length_marks (state : ScanState) (text : List Char) :
    (state.marks text).length = text.length := by
  induction text generalizing state with
  | nil => rfl
  | cons c rest ih => simp [marks, ih]

theorem length_scan (text : List Char) : (scan text).length = text.length :=
  ScanState.length_marks {} text

end PinBudget.Source
