import PinBudget.Config.Setting
import PinBudget.Estimate.Finding
import PinBudget.Source.CodeLine
import PinBudget.Source.Literal

/-!
Memory: fixed byte costs for what each line shows, added up line by line. An assignment costs by the
shape of its right-hand side, every quoted text by its length, and arrays, hashes and constructed
objects by the line or the occurrence.
-/
namespace PinBudget

open Source

/-- What the right-hand side of an assignment looks like. -/
inductive ValueShape where
  | integer
  | floating
  | quoted (length : Nat)
  | array (commas : Nat)
  | hash (commas : Nat)
  | object
  | other
  deriving DecidableEq, Repr

namespace ValueShape

/-- Digits with at most a minus sign. -/
private def unsigned (text : List Char) : List Char :=
  match text with
  | '-' :: rest => rest
  | _ => text

private def isInteger (text : List Char) : Bool :=
  areDigits (unsigned text)

private def isFloating (text : List Char) : Bool :=
  let (whole, rest) := (unsigned text).span Text.isDecimal
  match rest with
  | '.' :: fraction => !whole.isEmpty && areDigits fraction
  | _ => false

/-- Equal quotes around one line of text, whatever stands between them. -/
private def isQuoted (text : List Char) : Bool :=
  match text with
  | first :: rest => isQuote first && rest.getLast? == some first && !text.contains '\n'
  | [] => false

private def isBetween (opening closing : Char) (text : List Char) : Bool :=
  text.head? == some opening && text.getLast? == some closing

/-- Whether a text has a part. -/
def hasPart (part : List Char) : List Char → Bool
  | [] => part.isEmpty
  | c :: rest => part.isPrefixOf (c :: rest) || hasPart part rest

/-- The shape of a text without blanks around it. The first shape that fits counts. -/
def ofTrimmed (text : List Char) : ValueShape :=
  if isInteger text then integer
  else if isFloating text then floating
  else if isQuoted text then quoted text.length
  else if isBetween '[' ']' text then array (text.count ',')
  else if isBetween '\x7b' '\x7d' text then hash (text.count ',')
  else if hasPart ".new".toList text then object
  else other

def ofText (text : List Char) : ValueShape :=
  ofTrimmed (Text.trim text)

/-- A base cost and a cost for each comma. -/
def perComma (base item : Json) (commas : Nat) : Except Fault Json :=
  match Config.product (.nat commas) item with
  | .error fault => .error fault
  | .ok items => Config.sum base items

/-- A length with the overhead of a text. -/
def textCost (costs : Section MemoryKey) (length : Nat) : Except Fault Number :=
  match Config.number (costs .textOverhead) with
  | .error fault => .error fault
  | .ok overhead => Number.add (.int length) overhead

/-- The bytes that a value of the shape takes, as the settings give them. -/
def cost (costs : Section MemoryKey) : ValueShape → Except Fault Json
  | integer => .ok (costs .integer)
  | floating => .ok (costs .floating)
  | quoted length => (textCost costs length).map .number
  | array commas => perComma (costs .arrayBase) (costs .arrayItem) commas
  | hash commas => perComma (costs .hashBase) (costs .hashItem) commas
  | object => .ok (costs .object)
  | other => .ok (costs .other)

end ValueShape

/-- The bytes that the right-hand side of an assignment takes. -/
def valueCost (costs : Section MemoryKey) (text : List Char) : Except Fault Json :=
  (ValueShape.ofText text).cost costs

namespace LineMemory

/-- The content of a quoted text up to its closing quote, and what follows. A backslash protects
the character behind it, unless that is a line feed; a text that never closes has no content. -/
def quotedContent? (quote : Char) : List Char → Option (List Char × List Char)
  | [] => none
  | '\\' :: c :: rest =>
    if c == '\n' then none
    else (quotedContent? quote rest).map fun (content, after) => ('\\' :: c :: content, after)
  | c :: rest =>
    if c == quote then some ([], rest)
    else if c == '\\' then none
    else (quotedContent? quote rest).map fun (content, after) => (c :: content, after)

def quotedText : Pattern (List Char) := fun _ text =>
  match text with
  | [] => none
  | c :: rest => if isQuote c then quotedContent? c rest else none

def construction : Pattern (List Char) := fun before text =>
  if Text.atWordEdge before text then
    let (name, rest) := Text.spanWord text
    if name.isEmpty then none
    else
      match after? ".new".toList rest with
      | some behind => if behind.head?.any Text.isWord then none else some (name, behind)
      | none => none
  else none

private def constructionOf (className : String) : Pattern (List Char) := fun before text =>
  match construction before text with
  | some (name, rest) => if name == className.toList then some (name, rest) else none
  | none => none

/-- Whether an opening bracket has a closing one behind it. -/
private def hasBrackets (opening closing : Char) (text : List Char) : Bool :=
  (text.dropWhile (· != opening)).contains closing

end LineMemory

/-- What one line adds to the use of memory. -/
structure LineMemory where
  line : Nat
  assigned : Option (List Char)
  texts : List (List Char)
  hasArray : Bool
  hasHash : Bool
  objects : List (List Char)
  deriving DecidableEq, Repr

namespace LineMemory

/-- What a code line shows. Quoted texts are read off the line itself; for all else their content
is blanked out. -/
def ofCode (code : CodeLine) : LineMemory :=
  let masked := mask code.text
  { line := code.number
    assigned := (assignment? code.text).map Prod.snd
    texts := matchesOf quotedText code.text
    hasArray := occurs (constructionOf "Array") masked || hasBrackets '[' ']' masked
    hasHash := occurs (constructionOf "Hash") masked || hasBrackets '\x7b' '\x7d' masked
    objects := matchesOf construction masked }

/-- A cost that is due where a condition holds. -/
def dueIf (condition : Bool) (setting : Json) : List (Except Fault Number) :=
  if condition then [Config.number setting] else []

/-- The cost of the assignment of a line. It must be a number to be added up. -/
def assignmentCharges (costs : Section MemoryKey) (shown : LineMemory) :
    List (Except Fault Number) :=
  shown.assigned.toList.map fun right => (valueCost costs right).bind Config.number

/-- The costs of the quoted texts of a line. -/
def textCharges (costs : Section MemoryKey) (shown : LineMemory) : List (Except Fault Number) :=
  shown.texts.map fun content => ValueShape.textCost costs content.length

/-- The costs of a line, in the order in which they are added up. -/
def charges (costs : Section MemoryKey) (shown : LineMemory) : List (Except Fault Number) :=
  shown.assignmentCharges costs ++ shown.textCharges costs ++
    dueIf shown.hasArray (costs .arrayLine) ++ dueIf shown.hasHash (costs .hashLine) ++
    shown.objects.map fun _ => Config.number (costs .object)

end LineMemory

structure MemoryEstimate where
  ramBytes : Number
  variableCount : Nat
  texts : List (Nat × String)
  textBytes : Number
  arrayLines : List Nat
  hashLines : List Nat
  objects : List (Nat × String)
  findings : List Finding

namespace MemoryEstimate

/-- What the code lines of a text show. -/
def linesOf (text : String) : List LineMemory :=
  (codeLines text.toList).map LineMemory.ofCode

def total (charges : List (Except Fault Number)) : Except Fault Number :=
  charges.foldlM (fun sum charge => do sum.add (← charge)) (.int 0)

/-- The findings on the use of RAM. -/
def ramFindings (config : Config) (sourceId : String) (ram : Number) :
    Except Fault (List Finding) := do
  let limit ← Config.number (← config.ramErrorBytes)
  if limit.less ram then
    let used ← ram.shown
    let allowed ← Numeral.shown (← limit.truncate)
    return [{
      severity := .error
      category := .memory
      message := s!"Estimated RAM usage ({used} bytes) exceeds safe limit ({allowed} bytes)"
      sourceId := sourceId }]
  else if (← Config.number (← config.ramWarningBytes)).less ram then
    let used ← ram.shown
    return [{
      severity := .warning
      category := .memory
      message := s!"High estimated RAM usage: {used} bytes"
      sourceId := sourceId }]
  else return []

def registerFindings (config : Config) (sourceId : String) (variableCount : Nat) :
    Except Fault (List Finding) := do
  let limit := config.hardware .registerLimit
  if ← Config.above (.int variableCount) limit then
    let allowed ← Config.display limit
    return [{
      severity := .error
      category := .memory
      message := s!"Too many variables ({variableCount}) - VM register limit is {allowed}"
      sourceId := sourceId }]
  else return []

def textFindings (config : Config) (sourceId : String) (textBytes : Number) :
    Except Fault (List Finding) := do
  if ← Config.above textBytes (config.memory .textLimit) then
    let used ← textBytes.shown
    return [{
      severity := .warning
      category := .memory
      message := s!"High string memory usage: {used} bytes"
      sourceId := sourceId }]
  else return []

/-- The estimate for what lines show. -/
def ofLines (config : Config) (sourceId : String) (lines : List LineMemory) :
    Except Fault MemoryEstimate := do
  let ram ← total (lines.flatMap (LineMemory.charges config.memory))
  let textBytes ← total (lines.flatMap (LineMemory.textCharges config.memory))
  let variableCount := lines.countP fun shown => shown.assigned.isSome
  let ramNotes ← ramFindings config sourceId ram
  let registerNotes ← registerFindings config sourceId variableCount
  let textNotes ← textFindings config sourceId textBytes
  return {
    ramBytes := ram
    variableCount := variableCount
    texts := lines.flatMap fun shown =>
      shown.texts.map fun content => (shown.line, String.ofList content)
    textBytes := textBytes
    arrayLines := (lines.filter LineMemory.hasArray).map LineMemory.line
    hashLines := (lines.filter LineMemory.hasHash).map LineMemory.line
    objects := lines.flatMap fun shown =>
      shown.objects.map fun name => (shown.line, String.ofList name)
    findings := ramNotes ++ registerNotes ++ textNotes }

def ofSource (config : Config) (text sourceId : String) : Except Fault MemoryEstimate :=
  ofLines config sourceId (linesOf text)

end MemoryEstimate

end PinBudget
