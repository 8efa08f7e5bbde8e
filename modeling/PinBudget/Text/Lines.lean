/-!
Splitting a text into its physical lines.
-/
namespace PinBudget.Text

/-- Whether a character ends a line: line feed, carriage return, vertical tab, form feed, the
three record separators, next line, and the line and paragraph separators. -/
def isLineBreak (c : Char) : Bool :=
  let code := c.toNat
  (10 ≤ code && code ≤ 13) || (28 ≤ code && code ≤ 30) || code == 0x85 ||
    code == 0x2028 || code == 0x2029

/-- Splits off lines, with `line` the reversed part of the line read so far. A carriage return
and a line feed after it are one break. -/
def linesAfter (line : List Char) : List Char → List (List Char)
  | [] => if line.isEmpty then [] else [line.reverse]
  | '\r' :: '\n' :: rest => line.reverse :: linesAfter [] rest
  | c :: rest =>
    if isLineBreak c then line.reverse :: linesAfter [] rest else linesAfter (c :: line) rest

/-- The lines of a text without their breaks. A break at the very end starts no further line. -/
def lines (text : List Char) : List (List Char) :=
  linesAfter [] text

/-- The text with every carriage return, alone or before a line feed, read as a line feed. -/
def unifyBreaks : List Char → List Char
  | [] => []
  | '\r' :: '\n' :: rest => '\n' :: unifyBreaks rest
  | c :: rest => (if c == '\r' then '\n' else c) :: unifyBreaks rest

end PinBudget.Text
