/-!
Blank characters and trimming. Texts are lists of characters, so that every function on them is
plain recursion.
-/
namespace PinBudget.Text

/-- Whether a character only separates words: the space, the control characters that move the
carriage or separate records, and the spaces of other scripts. A zero-width space is not blank. -/
def isBlank (c : Char) : Bool :=
  let code := c.toNat
  (9 ≤ code && code ≤ 13) || (28 ≤ code && code ≤ 32) || code == 0x85 || code == 0xa0 ||
    code == 0x1680 || (0x2000 ≤ code && code ≤ 0x200a) || code == 0x2028 || code == 0x2029 ||
    code == 0x202f || code == 0x205f || code == 0x3000

def trimLeft (text : List Char) : List Char :=
  text.dropWhile isBlank

def trimRight (text : List Char) : List Char :=
  (text.reverse.dropWhile isBlank).reverse

/-- The text without blanks at either end. -/
def trim (text : List Char) : List Char :=
  trimRight (trimLeft text)

def trimString (text : String) : String :=
  String.ofList (trim text.toList)

end PinBudget.Text
