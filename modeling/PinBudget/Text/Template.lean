import PinBudget.Fault
import PinBudget.Number.Digits
import PinBudget.Text.Digit
import PinBudget.Text.Printable

/-!
Message templates. A template is text with fields in braces; the only field that can be filled in is
a natural number named `count`. Behind the name a field may go on to a part of the number or to its
class, and behind a colon it may give a layout: fill and alignment, sign, width, grouping, precision
and notation, in this order.
-/
namespace PinBudget.Template

private def malformed {α : Type} (problem : String) : Except Fault α :=
  .error (.malformedTemplate problem)

/-! ## Pieces -/

/-- One piece of a template: plain text, or a field with its name, its conversion and its layout. -/
inductive Piece where
  | literal (text : List Char)
  | field (name : List Char) (conversion : Option Char) (layout : List Char)
  deriving DecidableEq, Repr

mutual

/-- The pieces of a template from plain text on. The text read so far is reversed. Doubled braces
stand for themselves; a fault ends the pieces. -/
def literalPieces (read : List Char) : List Char → List (Except Fault Piece)
  | [] => [.ok (.literal read.reverse)]
  | '\x7b' :: '\x7b' :: rest => literalPieces ('\x7b' :: read) rest
  | '\x7d' :: '\x7d' :: rest => literalPieces ('\x7d' :: read) rest
  | ['\x7b'] => [malformed "Single '\x7b' encountered in format string"]
  | '\x7b' :: rest => .ok (.literal read.reverse) :: fieldPieces [] rest
  | '\x7d' :: _ => [malformed "Single '\x7d' encountered in format string"]
  | c :: rest => literalPieces (c :: read) rest
termination_by structural text => text

/-- The pieces from the name of a field on. -/
def fieldPieces (read : List Char) : List Char → List (Except Fault Piece)
  | [] => [malformed "expected '\x7d' before end of string"]
  | '\x7b' :: _ => [malformed "unexpected '\x7b' in field name"]
  | '\x7d' :: rest => .ok (.field read.reverse none []) :: literalPieces [] rest
  | '[' :: rest => indexPieces ('[' :: read) rest
  | ':' :: rest => layoutPieces read.reverse none 1 [] rest
  | ['!'] => [malformed "end of string while looking for conversion specifier"]
  | ['!', _] => [malformed "unmatched '\x7b' in format spec"]
  | '!' :: conversion :: '\x7d' :: rest =>
    .ok (.field read.reverse (some conversion) []) :: literalPieces [] rest
  | '!' :: conversion :: ':' :: rest => layoutPieces read.reverse (some conversion) 1 [] rest
  | '!' :: _ :: _ :: _ => [malformed "expected ':' after conversion specifier"]
  | c :: rest => fieldPieces (c :: read) rest
termination_by structural text => text

/-- The pieces from the middle of an index on; only its closing bracket ends it. -/
def indexPieces (read : List Char) : List Char → List (Except Fault Piece)
  | [] => [malformed "expected '\x7d' before end of string"]
  | ']' :: rest => fieldPieces (']' :: read) rest
  | c :: rest => indexPieces (c :: read) rest
termination_by structural text => text

/-- The pieces from a layout on, inside so many open braces. -/
def layoutPieces (name : List Char) (conversion : Option Char) (depth : Nat) (read : List Char) :
    List Char → List (Except Fault Piece)
  | [] => [malformed "unmatched '\x7b' in format spec"]
  | '\x7b' :: rest => layoutPieces name conversion (depth + 1) ('\x7b' :: read) rest
  | '\x7d' :: rest =>
    if depth ≤ 1 then .ok (.field name conversion read.reverse) :: literalPieces [] rest
    else layoutPieces name conversion (depth - 1) ('\x7d' :: read) rest
  | c :: rest => layoutPieces name conversion depth (c :: read) rest
termination_by structural text => text

end

/-! ## Names -/

private def numberLimit : Nat := Nat.pow 2 63

private def tooManyDigits {α : Type} : Except Fault α :=
  malformed "Too many decimal digits in format string"

/-- The number that a name is written as, if it is one. -/
private def numberOf? (name : List Char) : Except Fault (Option Nat) :=
  let (digits, rest) := name.span Text.isDecimal
  let number := Text.decimalNumber digits
  if numberLimit ≤ number then tooManyDigits
  else if digits.isEmpty || !rest.isEmpty then .ok none
  else .ok (some number)

/-- The classes that the values in a template belong to. -/
inductive ValueClass where
  | number
  | text
  | sequence
  | method
  | operation
  | nothing
  | metaclass
  | root
  deriving DecidableEq, Repr

namespace ValueClass

def name : ValueClass → String
  | number => "int"
  | text => "str"
  | sequence => "tuple"
  | method => "builtin_function_or_method"
  | operation => "method-wrapper"
  | nothing => "NoneType"
  | metaclass => "type"
  | root => "object"

/-- A class and the classes above it. -/
def lineage : ValueClass → List ValueClass
  | root => [root]
  | other => [other, root]

/-- The class as it is shown. -/
def shown (family : ValueClass) : String :=
  s!"<class '{family.name}'>"

end ValueClass

/-- What a field can stand for. Of some things there is no more to tell than how they are shown; a
method is shown without its place in memory. -/
inductive Referent where
  | number (value : Nat)
  | text (value : String)
  | valueClass (value : ValueClass)
  | sequence (items : List ValueClass)
  | thing (family : ValueClass) (shown : String)
  deriving DecidableEq, Repr

namespace Referent

def classOf : Referent → ValueClass
  | number _ => .number
  | text _ => .text
  | valueClass _ => .metaclass
  | sequence _ => .sequence
  | thing family _ => family

/-- What is said about whole numbers in general. -/
private def numberText : String :=
  "int([x]) -> integer\n" ++
    "int(x, base=10) -> integer\n" ++
    "\n" ++
    "Convert a number or string to an integer, or return 0 if no arguments\n" ++
    "are given.  If x is a number, return x.__int__().  For floating point\n" ++
    "numbers, this truncates towards zero.\n" ++
    "\n" ++
    "If x is not a number or if base is given, then x must be a string,\n" ++
    "bytes, or bytearray instance representing an integer literal in the\n" ++
    "given base.  The literal can be preceded by '+' or '-' and be surrounded\n" ++
    "by whitespace.  The base defaults to 10.  Valid bases are 0 and 2-36.\n" ++
    "Base 0 means to interpret the base from the string as an integer literal.\n" ++
    ">>> int('0b100', base=0)\n" ++
    "4"

/-- The methods of a number that go by a plain name or serve conversions. -/
private def numberMethods : List String :=
  ["__ceil__", "__dir__", "__floor__", "__format__", "__getnewargs__", "__getstate__",
    "__reduce__", "__reduce_ex__", "__round__", "__sizeof__", "__trunc__", "as_integer_ratio",
    "bit_count", "bit_length", "conjugate", "to_bytes"]

private def classMethods : List String :=
  ["__init_subclass__", "__new__", "__subclasshook__", "from_bytes"]

/-- The operations of a number, each between two pairs of underscores. -/
private def numberOperations : List String :=
  ["abs", "add", "and", "bool", "delattr", "divmod", "eq", "float", "floordiv", "ge",
    "getattribute", "gt", "hash", "index", "init", "int", "invert", "le", "lshift", "lt", "mod",
    "mul", "ne", "neg", "or", "pos", "pow", "radd", "rand", "rdivmod", "repr", "rfloordiv",
    "rlshift", "rmod", "rmul", "ror", "rpow", "rrshift", "rshift", "rsub", "rtruediv", "rxor",
    "setattr", "str", "sub", "truediv", "xor"]

/-- The part of a number with a name: a number that it consists of, what is said about it, or one of
its methods. -/
private def numberPart? (value : Nat) (name : String) : Option Referent :=
  if name == "real" || name == "numerator" then some (number value)
  else if name == "imag" then some (number 0)
  else if name == "denominator" then some (number 1)
  else if name == "__doc__" then some (text numberText)
  else if numberMethods.contains name then
    some (thing .method s!"<built-in method {name} of int object>")
  else if classMethods.contains name then
    some (thing .method s!"<built-in method {name} of type object>")
  else if (numberOperations.map fun word => s!"__{word}__").contains name then
    some (thing .operation s!"<method-wrapper '{name}' of int object>")
  else none

/-- The part of a class with a name: what it is called, where it stands, and what is above it. -/
private def classPart? (value : ValueClass) (name : String) : Option Referent :=
  if name == "__name__" || name == "__qualname__" then some (text value.name)
  else if name == "__module__" then some (text "builtins")
  else if name == "__mro__" then some (sequence value.lineage)
  else if name == "__bases__" then some (sequence (value.lineage.drop 1))
  else if name == "__base__" then
    some (((value.lineage.drop 1).head?).elim (thing .nothing "None") valueClass)
  else none

/-- The part with a name. Everything has its class; beyond that only the parts of numbers and the
places of classes are known. -/
def part (referent : Referent) (name : String) : Except Fault Referent :=
  if name == "__class__" then .ok (valueClass referent.classOf)
  else
    let found := match referent with
      | number value => numberPart? value name
      | valueClass value => classPart? value name
      | text _ | sequence _ | thing .. => none
    match found with
    | some inner => .ok inner
    | none => .error .noSuchOperation

/-- The item at an index; only texts and sequences have some. -/
def item (referent : Referent) (index : Nat) : Except Fault Referent :=
  let inside {α : Type} (wrap : α → Referent) (items : List α) : Except Fault Referent :=
    match items[index]? with
    | some found => .ok (wrap found)
    | none => .error .missingPosition
  match referent with
  | text value => inside (fun c => text (String.singleton c)) value.toList
  | sequence items => inside valueClass items
  | number _ | valueClass _ | thing .. => .error .wrongType

/-- What is left after the parts and items of a name behind its first word. -/
def follow (fuel : Nat) (referent : Referent) (path : List Char) : Except Fault Referent :=
  match fuel, path with
  | fuel + 1, '.' :: rest =>
    let (name, after) := rest.span fun c => c != '.' && c != '['
    if name.isEmpty then malformed "Empty attribute in format string"
    else
      match referent.part (String.ofList name) with
      | .error fault => .error fault
      | .ok inner => follow fuel inner after
  | fuel + 1, '[' :: rest =>
    let (name, after) := rest.span (· != ']')
    if name.isEmpty then malformed "Empty attribute in format string"
    else
      match numberOf? name with
      | .error fault => .error fault
      | .ok none => .error .wrongType
      | .ok (some index) =>
        match referent.item index with
        | .error fault => .error fault
        | .ok inner => follow fuel inner (after.drop 1)
  | _ + 1, _ :: _ => malformed "Only '.' or '[' may follow ']' in format field specifier"
  | _, _ => .ok referent

def plain : Referent → String
  | number value => String.ofList (Nat.toDigits 10 value)
  | text value => value
  | valueClass value => value.shown
  | sequence [single] => s!"({single.shown},)"
  | sequence items =>
    let shown := ", ".intercalate (items.map ValueClass.shown)
    s!"({shown})"
  | thing _ shown => shown

/-- The text in full detail: a text stands in quotes. -/
def detailed : Referent → String
  | text value => Text.quotedString value
  | other => other.plain

end Referent

/-- What a field's name stands for. Fields without a name, or with a number for a name, have nothing
to stand for. -/
def lookup (count : Nat) (name : List Char) : Except Fault Referent :=
  let (first, path) := name.span fun c => c != '.' && c != '['
  match numberOf? first with
  | .error fault => .error fault
  | .ok number =>
    if first.isEmpty || number.isSome then .error .missingPosition
    else if first == "count".toList then Referent.follow path.length (.number count) path
    else .error .missingName

/-! ## Layouts -/

structure Layout where
  fill : Char := ' '
  align : Option Char := none
  sign : Option Char := none
  plainZero : Bool := false
  alternate : Bool := false
  width : Nat := 0
  separator : Option Char := none
  precision : Option Nat := none
  letter : Option Char := none
  deriving DecidableEq, Repr

/-- What a layout is for: the name of its type, its usual notation and its usual alignment. -/
structure Subject where
  name : String
  usual : Char
  align : Char

/-- Whole numbers stand at the right. -/
def wholeNumber : Subject := ⟨"int", 'd', '>'⟩

/-- Texts stand at the left. -/
def plainText : Subject := ⟨"str", 's', '<'⟩

private def isAlignment (c : Char) : Bool :=
  c == '<' || c == '>' || c == '=' || c == '^'

private def readAlignment (text : List Char) : Layout × Bool × List Char :=
  match text with
  | fill :: align :: rest =>
    if isAlignment align then ({ fill := fill, align := some align }, true, rest)
    else if isAlignment fill then ({ align := some fill }, false, align :: rest)
    else ({}, false, text)
  | [align] => if isAlignment align then ({ align := some align }, false, []) else ({}, false, text)
  | [] => ({}, false, [])

/-- A mark that may stand at the front of a text. -/
private def readMark (marks text : List Char) : Option Char × List Char :=
  match text with
  | c :: rest => if marks.contains c then (some c, rest) else (none, text)
  | [] => (none, [])

private def readNumber (text : List Char) : Except Fault (Option Nat × List Char) :=
  let (digits, rest) := text.span Text.isDecimal
  let number := Text.decimalNumber digits
  if digits.isEmpty then .ok (none, text)
  else if numberLimit ≤ number then tooManyDigits
  else .ok (some number, rest)

private def readSeparator (text : List Char) : Except Fault (Option Char × List Char) :=
  let (separator, rest) := readMark [',', '_'] text
  match separator, rest with
  | some ',', '_' :: _ | some '_', ',' :: _ => malformed "Cannot specify both ',' and '_'."
  | _, _ => .ok (separator, rest)

private def readPrecision (text : List Char) : Except Fault (Option Nat × List Char) :=
  match text with
  | '.' :: rest => do
    match ← readNumber rest with
    | (none, _) => malformed "Format specifier missing precision"
    | found => return found
  | _ => .ok (none, text)

/-- A letter as messages show it: by its code, unless it lies between the blank and a limit. -/
private def letterBelow (limit : Nat) (c : Char) : String :=
  if 32 < c.toNat && c.toNat < limit then String.singleton c
  else String.ofList ('\\' :: 'x' :: Nat.toDigits 16 c.toNat)

/-- A letter of a notation, as messages show it. -/
private def letterText (c : Char) : String :=
  letterBelow 128 c

/-- Whether digits of a notation can be grouped by a separator. -/
private def canGroup (separator letter : Char) : Bool :=
  "defgEG%F\x00".toList.contains letter || (separator == '_' && "boxX".toList.contains letter)

def Layout.read (subject : Subject) (text : List Char) : Except Fault Layout := do
  let (start, filled, afterAlign) := readAlignment text
  let (sign, afterSign) := readMark [' ', '+', '-'] afterAlign
  let (plain, afterPlain) := readMark ['z'] afterSign
  let (alternate, afterAlternate) := readMark ['#'] afterPlain
  let (zero, afterZero) := if filled then (none, afterAlternate) else readMark ['0'] afterAlternate
  let (width, afterWidth) ← readNumber afterZero
  let (separator, afterSeparator) ← readSeparator afterWidth
  let (precision, rest) ← readPrecision afterSeparator
  let align :=
    if zero.isSome && start.align.isNone && subject.align == '>' then some '=' else start.align
  let letter ← match rest with
    | [] => pure none
    | [letter] => pure (some letter)
    | _ =>
      let shown := String.ofList text
      malformed s!"Invalid format specifier '{shown}' for object of type '{subject.name}'"
  let chosen := letter.getD subject.usual
  match separator with
  | some mark =>
    if canGroup mark chosen then pure ()
    else malformed s!"Cannot specify '{mark}' with '{letterText chosen}'."
  | none => pure ()
  return {
    fill := if zero.isSome then '0' else start.fill
    align := align
    sign := sign
    plainZero := plain.isSome
    alternate := alternate.isSome
    width := width.getD 0
    separator := separator
    precision := precision
    letter := letter }

/-! ## Digits -/

/-- Groups digits, given from the last one on, with a separator before each further group. Zeros
fill up to a least number of characters. -/
private def grouped (separator : Char) (size fuel : Nat) (least : Int) (digits : List Char) :
    List Char :=
  match fuel with
  | 0 => digits
  | fuel + 1 =>
    let want := max (max digits.length least.toNat) 1
    let taken := min size want
    let shown := digits.take taken
    let group := shown ++ List.replicate (taken - shown.length) '0'
    let rest := digits.drop taken
    let left := least - taken
    if rest.isEmpty && left ≤ 0 then group
    else group ++ separator :: grouped separator size fuel (left - 1) rest

/-- Digits with their grouping and the zeros that the layout asks for. -/
private def Layout.digitText (layout : Layout) (size least : Nat) (digits : List Char) :
    List Char :=
  match layout.separator with
  | some separator =>
    (grouped separator size (digits.length + least + 1) least digits.reverse).reverse
  | none => List.replicate (least - digits.length) '0' ++ digits

private def Layout.signText (layout : Layout) : List Char :=
  match layout.sign with
  | some '+' => ['+']
  | some ' ' => [' ']
  | _ => []

/-- Pads a text to the width; a mark in front of the digits stays in front of the padding. -/
private def Layout.pad (layout : Layout) (align : Char) (mark body : List Char) : List Char :=
  let missing := layout.width - (mark.length + body.length)
  let padding (count : Nat) : List Char := List.replicate count layout.fill
  match layout.align.getD align with
  | '<' => mark ++ body ++ padding missing
  | '^' => padding (missing / 2) ++ mark ++ body ++ padding (missing - missing / 2)
  | '=' => mark ++ padding missing ++ body
  | _ => padding missing ++ mark ++ body

/-- A number laid out: its mark, its digits and what follows the digits. -/
private def Layout.numberText (layout : Layout) (size : Nat) (mark digits tail : List Char) :
    List Char :=
  let zeros := layout.fill == '0' && layout.align == some '='
  let least := if zeros then layout.width - (mark.length + tail.length) else 0
  layout.pad '>' mark (layout.digitText size least digits ++ tail)

/-! ## Whole notations -/

/-- The base, the mark and the digits of a notation for whole numbers. -/
private def wholeDigits (letter : Char) (number : Nat) : List Char × List Char :=
  match letter with
  | 'b' => (['0', 'b'], Nat.toDigits 2 number)
  | 'o' => (['0', 'o'], Nat.toDigits 8 number)
  | 'x' => (['0', 'x'], Nat.toDigits 16 number)
  | 'X' => (['0', 'X'], (Nat.toDigits 16 number).map Char.toUpper)
  | _ => ([], Nat.toDigits 10 number)

private def Layout.characterText (layout : Layout) (number : Nat) : Except Fault (List Char) :=
  if layout.sign.isSome then malformed "Sign not allowed with integer format specifier 'c'"
  else if layout.alternate then
    malformed "Alternate form (#) not allowed with integer format specifier 'c'"
  else if 0x110000 ≤ number then .error .overflow
  else .ok (layout.pad '>' [] [Char.ofNat number])

private def Layout.wholeText (layout : Layout) (letter : Char) (number : Nat) :
    Except Fault (List Char) :=
  if layout.precision.isSome then malformed "Precision not allowed in integer format specifier"
  else if layout.plainZero then
    malformed "Negative zero coercion (z) not allowed in integer format specifier"
  else if letter == 'c' then layout.characterText number
  else
    let (mark, digits) := wholeDigits letter number
    let size := if mark.isEmpty then 3 else 4
    let lead := layout.signText ++ if layout.alternate then mark else []
    .ok (layout.numberText size lead digits [])

/-! ## Floating notations -/

/-- A point and the digits behind it; a bare point only in the alternate form. -/
private def Layout.fraction (layout : Layout) (digits : List Char) : List Char :=
  if digits.isEmpty && !layout.alternate then [] else '.' :: digits

/-- An exponent behind its letter. -/
private def exponentTail (letter : Char) (exponent : Int) : List Char :=
  let digits := Nat.toDigits 10 exponent.natAbs
  letter :: (if exponent < 0 then '-' else '+') ::
    (List.replicate (2 - digits.length) '0' ++ digits)

/-- The significant digits of a natural number and its decimal exponent. Zeros follow a number that
has fewer digits. -/
private def significant (count number : Nat) : List Char × Int :=
  let digits := Nat.toDigits 10 number
  if digits.length ≤ count then
    (digits ++ List.replicate (count - digits.length) '0', (digits.length : Int) - 1)
  else
    let rounded := significantDigits count number 1
    (rounded.chars, rounded.point - 1)

private def dropZeros (digits : List Char) : List Char :=
  (digits.reverse.dropWhile (· == '0')).reverse

/-- The general notation: positional where the exponent is small against the precision. -/
private def Layout.generalParts (layout : Layout) (letter : Char) (precision number : Nat) :
    List Char × List Char :=
  let count := max precision 1
  let (digits, exponent) := significant count number
  let kept (fraction : List Char) := if layout.alternate then fraction else dropZeros fraction
  if exponent < count then
    let whole := exponent.toNat + 1
    (digits.take whole, layout.fraction (kept (digits.drop whole)))
  else (digits.take 1, layout.fraction (kept (digits.drop 1)) ++ exponentTail letter exponent)

private def Layout.floatParts (layout : Layout) (letter : Char) (number : Nat) :
    List Char × List Char :=
  let precision := layout.precision.getD 6
  let zeros := layout.fraction (List.replicate precision '0')
  match letter with
  | 'f' | 'F' => (Nat.toDigits 10 number, zeros)
  | '%' => (Nat.toDigits 10 (100 * number), zeros ++ ['%'])
  | 'e' | 'E' =>
    let (digits, exponent) := significant (precision + 1) number
    (digits.take 1, layout.fraction (digits.drop 1) ++ exponentTail letter exponent)
  | _ => layout.generalParts (if letter == 'G' then 'E' else 'e') precision number

/-! ## Filling in -/

private def unknownNotation {α : Type} (subject : Subject) (letter : Char) : Except Fault α :=
  malformed s!"Unknown format code '{letterText letter}' for object of type '{subject.name}'"

private def precisionLimit : Nat := Nat.pow 2 31

def numberUnder (number : Nat) (text : List Char) : Except Fault (List Char) := do
  let layout ← Layout.read wholeNumber text
  let letter := layout.letter.getD wholeNumber.usual
  if "bcdoxXn".toList.contains letter then layout.wholeText letter number
  else if "eEfFgG%".toList.contains letter then
    if layout.precision.any fun precision => precisionLimit ≤ precision then
      malformed "precision too big"
    else
      let (digits, tail) := layout.floatParts letter number
      return layout.numberText 3 layout.signText digits tail
  else unknownNotation wholeNumber letter

def textUnder (body text : List Char) : Except Fault (List Char) := do
  let layout ← Layout.read plainText text
  let letter := layout.letter.getD plainText.usual
  if letter != 's' then unknownNotation plainText letter
  else if layout.sign == some ' ' then malformed "Space not allowed in string format specifier"
  else if layout.sign.isSome then malformed "Sign not allowed in string format specifier"
  else if layout.plainZero then
    malformed "Negative zero coercion (z) not allowed in string format specifier"
  else if layout.alternate then
    malformed "Alternate form (#) not allowed in string format specifier"
  else if layout.align == some '=' then
    malformed "'=' alignment not allowed in string format specifier"
  else
    let shown := match layout.precision with
      | some precision => body.take precision
      | none => body
    return layout.pad '<' [] shown

/-- A referent under a layout. Only numbers and texts can be laid out. -/
def Referent.under (referent : Referent) (layout : List Char) : Except Fault (List Char) :=
  match referent with
  | .number value => numberUnder value layout
  | .text value => textUnder value.toList layout
  | .valueClass _ | .sequence _ | .thing .. =>
    if layout.isEmpty then .ok referent.plain.toList else .error .wrongType

/-- How a referent is converted before it is laid out. -/
inductive Conversion where
  | unchanged
  | plain
  | detailed
  deriving DecidableEq, Repr

/-- The conversion with a letter; the null character stands for none. -/
def Conversion.ofLetter : Option Char → Except Fault Conversion
  | none => .ok unchanged
  | some c =>
    if c == '\x00' then .ok unchanged
    else if c == 's' then .ok plain
    else if c == 'r' || c == 'a' then .ok detailed
    else malformed s!"Unknown conversion specifier {letterBelow 127 c}"

/-- A referent under a conversion and a layout. -/
def converted (referent : Referent) (conversion : Conversion) (layout : List Char) :
    Except Fault (List Char) :=
  match conversion with
  | .unchanged => referent.under layout
  | .plain => textUnder referent.plain.toList layout
  | .detailed => textUnder referent.detailed.toList layout

/-- Fills in a template. A layout may itself have fields, down to a depth. -/
def fillTo (count : Nat) : Nat → List Char → Except Fault (List Char)
  | 0, _ => malformed "Max string recursion exceeded"
  | depth + 1, text => do
    let filled ← (literalPieces [] text).mapM fun piece => do
      match ← piece with
      | .literal text => return text
      | .field name letter layout =>
        let referent ← lookup count name
        let conversion ← Conversion.ofLetter letter
        let expanded ← if layout.contains '\x7b' then fillTo count depth layout else pure layout
        converted referent conversion expanded
    return filled.flatten

/-- Fills in a template; its layouts may have fields, and those have none. -/
def fill (count : Nat) (text : String) : Except Fault String :=
  (fillTo count 2 text.toList).map String.ofList

end PinBudget.Template
