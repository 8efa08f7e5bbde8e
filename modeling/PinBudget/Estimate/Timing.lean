import PinBudget.Config.Setting
import PinBudget.Estimate.Finding
import PinBudget.Source.CodeLine
import PinBudget.Usage.Extraction

/-!
Timing: delays, timers, blocking calls and loops, charged line by line. Blocking calls are those
that the extraction attributes to a peripheral; a line without one may still look like one.
-/
namespace PinBudget

open Source

structure DelayCall where
  line : Nat
  call : String
  milliseconds : Float

structure TimerUse where
  line : Nat
  timer : Nat
  reserved : Bool
  deriving DecidableEq, Repr

/-- A call that waits for a peripheral. -/
structure BlockingOperation where
  line : Nat
  operation : String
  deriving DecidableEq, Repr

namespace LineTiming

/-- The calls that wait, with the milliseconds of one unit of their argument. A name that begins
with another one comes first. -/
def delayUnits : List (String × Float) :=
  [("sleep_ms", 1.0), ("sleep", 1000.0), ("delay", 1.0), ("wait", 1.0)]

/-- The text of the argument of a delay: behind an opening parenthesis or behind blanks. -/
private def delayArgument? (text : List Char) : Option (List Char) :=
  match Text.trimLeft text with
  | '(' :: rest => some (Text.trimLeft rest)
  | trimmed => if text.head?.any Text.isBlank then some trimmed else none

/-- A number with an optional fraction. -/
private def amount? (text : List Char) : Option (Float × List Char) :=
  let (whole, rest) := text.span Text.isDecimal
  if whole.isEmpty then none
  else
    match rest with
    | '.' :: behind =>
      let (fraction, after) := behind.span Text.isDecimal
      if fraction.isEmpty then some (Numeral.double false whole [], rest)
      else some (Numeral.double false whole fraction, after)
    | _ => some (Numeral.double false whole [], rest)

/-- A delay with a literal amount: the call and its milliseconds. -/
def delay : Pattern (String × Float) := fun before text =>
  if Text.atWordEdge before text then
    delayUnits.findSome? fun (call, unit) => do
      let rest ← after? call.toList text
      let argument ← delayArgument? rest
      let (amount, behind) ← amount? argument
      return ((call, amount * unit), behind)
  else none

/-- The digits of a timer's number. -/
def timer : Pattern (List Char) := fun before text =>
  if Text.atWordEdge before text then
    match after? "Timer".toList text with
    | none => none
    | some rest =>
      let (digits, behind) := rest.span Text.isDecimal
      if digits.isEmpty || behind.head?.any Text.isWord then none else some (digits, behind)
  else none

private def loopWords : List String := ["while", "until", "for", "loop"]

def loopWord : Pattern String := fun before text =>
  if Text.atWordEdge before text then
    loopWords.findSome? fun word =>
      match after? word.toList text with
      | some rest => if rest.head?.any Text.isWord then none else some (word, rest)
      | none => none
  else none

/-- A character as a lower-case letter of a keyword: dotted and dotless letters I count as `i`, and
the long s counts as `s`. -/
private def folded (c : Char) : Char :=
  if c.toNat == 0x130 || c.toNat == 0x131 then 'i'
  else if c.toNat == 0x17f then 's'
  else c.toLower

/-- Whether a lower-case word stands at the front of a text, whatever the text's case. -/
private def beginsWith : List Char → List Char → Bool
  | [], _ => true
  | _ :: _, [] => false
  | letter :: word, c :: text => folded c == letter && beginsWith word text

/-- The text up to the end of the last occurrence of a word, if there is one. -/
private def throughLast? (word : List Char) : List Char → Option (List Char)
  | [] => none
  | c :: rest =>
    match throughLast? word rest with
    | some through => some (c :: through)
    | none => if beginsWith word (c :: rest) then some ((c :: rest).take word.length) else none

/-- What a blocking call looks like: a kind's name and, later on the line, a method. -/
private structure BlockingShape where
  receiver : List Char
  method : List Char
  deriving DecidableEq

private def blockingShapes : List BlockingShape :=
  [⟨"uart".toList, "read".toList⟩, ⟨"adc".toList, "read".toList⟩, ⟨"i2c".toList, "read".toList⟩,
    ⟨"spi".toList, "transfer".toList⟩]

/-- The first text of one of the shapes, up to the last place where its method stands. The method
that is missing behind one place of a receiver is missing behind all later ones, so its shape is
not looked for again. No two receivers stand at one place. -/
private def blockingTextFrom? (shapes : List BlockingShape) : List Char → Option (List Char)
  | [] => none
  | c :: rest =>
    match shapes.find? fun shape => beginsWith shape.receiver (c :: rest) with
    | none => blockingTextFrom? shapes rest
    | some shape =>
      let (name, behind) := (c :: rest).splitAt shape.receiver.length
      match throughLast? shape.method behind with
      | some through => some (name ++ through)
      | none => blockingTextFrom? (shapes.filter (· ≠ shape)) rest

/-- The first text that looks like a blocking call, up to the last place where its method stands. -/
def blockingText? (line : List Char) : Option (List Char) :=
  blockingTextFrom? blockingShapes line

end LineTiming

/-- What one line adds to the running time. -/
structure LineTiming where
  line : Nat
  delays : List (String × Float)
  timers : List (List Char)
  operations : List String
  hasLoop : Bool

namespace LineTiming

/-- A method's name without the marks of tests and dangerous methods at its end. -/
def plainMethod (method : String) : String :=
  String.ofList (method.toList.reverse.dropWhile fun c => c == '?' || c == '!').reverse

/-- Whether a call blocks by the given method names. -/
def blocks (methods : List Json) (call : MethodCall) : Bool :=
  methods.any fun name => match name with
    | .str text => text == plainMethod call.method
    | _ => false

/-- The blocking calls among method calls that stand on a line. -/
def attributed (methods : List Json) (calls : List MethodCall) (line : Nat) : List String :=
  (calls.filter fun call => call.line == (line : Int) && blocks methods call).map fun call =>
    s!"{call.receiver}.{call.method}"

/-- The blocking operations of a code line: the attributed calls, or else what its text looks like.
`masked` is the line with the content of its quoted texts blanked out. -/
def operationsOf (calls : Nat → List String) (line : Nat) (masked : List Char) : List String :=
  match calls line with
  | [] => (blockingText? masked).toList.map String.ofList
  | several => several

/-- What a code line shows, given the attributed blocking calls by line. -/
def ofCode (calls : Nat → List String) (code : CodeLine) : LineTiming :=
  let masked := mask code.text
  { line := code.number
    delays := matchesOf delay masked
    timers := matchesOf timer masked
    operations := operationsOf calls code.number masked
    hasLoop := occurs loopWord masked }

/-- The milliseconds of a line, in the order in which they are added up. -/
def charges (costs : Section TimingKey) (shown : LineTiming) : List (Except Fault Number) :=
  shown.delays.map (fun delay => .ok (.float delay.2)) ++
    shown.operations.map (fun _ => Config.number (costs .blockingCall)) ++
    (if shown.hasLoop then [Config.number (costs .loopOverhead)] else [])

end LineTiming

/-- The estimated running time of one source. -/
structure TimingEstimate where
  executionMs : Float
  delays : List DelayCall
  timers : List TimerUse
  blocking : List BlockingOperation
  loopLines : List Nat
  findings : List Finding

namespace TimingEstimate

def longestDelay (delays : List DelayCall) : Float :=
  match delays with
  | [] => 0.0
  | first :: rest =>
    rest.foldl (fun longest delay => if longest < delay.milliseconds then delay.milliseconds else
      longest) first.milliseconds

/-- Charges added to a time from left to right. -/
def addCharges (time : Float) (charges : List (Except Fault Number)) : Except Fault Float :=
  charges.foldlM (fun sum charge => do return sum + (← (← charge).toFloat)) time

def timersOf (config : Config) (shown : LineTiming) : Except Fault (List TimerUse) :=
  shown.timers.mapM fun digits => do
    let timer ← Numeral.ofDigits digits
    return ⟨shown.line, timer, Json.isInt timer (config.hardware .reservedTimer)⟩

/-- The running time and the timers after one more line. The timers of a line are read before its
blocking calls and its loop are charged. -/
def addLine (config : Config) (reached : Float × List TimerUse) (shown : LineTiming) :
    Except Fault (Float × List TimerUse) := do
  let timers ← timersOf config shown
  let time ← addCharges reached.1 (shown.charges config.timing)
  return (time, reached.2 ++ timers)

private def timerFindings (sourceId : String) (uses : List TimerUse) : List Finding :=
  (uses.filter TimerUse.reserved).map fun use =>
    { severity := .error
      category := .timing
      message := s!"Line {use.line}: Timer{use.timer} is reserved for mruby/c system tick"
      sourceId := sourceId
      line := some use.line }

/-- The finding on one delay: a limit on the response time, where there is one, takes the place of
the general limit. -/
def delayFindings (config : Config) (sourceId : String) (responseLimit : Option Number)
    (delay : DelayCall) : Except Fault (List Finding) := do
  let duration : Number := .float delay.milliseconds
  let finding (message : String) : List Finding :=
    [{ severity := .warning
       category := .timing
       message := message
       sourceId := sourceId
       line := some delay.line }]
  match responseLimit with
  | some limit =>
    if limit.less duration then
      let shown ← duration.general
      let allowed ← limit.general
      return finding
        s!"Line {delay.line}: Delay {shown}ms exceeds real-time constraint ({allowed}ms)"
    else return []
  | none =>
    if ← Config.above duration (config.timing .longDelay) then
      let shown ← duration.general
      return finding
        s!"Line {delay.line}: Long delay ({shown}ms) may affect system responsiveness"
    else return []

def executionFindings (config : Config) (sourceId : String) (execution : Float) :
    Except Fault (List Finding) := do
  if ← Config.above (.float execution) (config.timing .executionLimit) then
    let shown := generalText execution
    return [{
      severity := .warning
      category := .timing
      message := s!"High estimated execution time: {shown}ms"
      sourceId := sourceId }]
  else return []

private def blockingFindings (sourceId : String) (blocking : List BlockingOperation)
    (loopLines : List Nat) : List Finding :=
  match blocking, loopLines with
  | first :: _, _ :: _ =>
    [{ severity := .warning
       category := .timing
       message := "Blocking I/O operations detected in main execution path - " ++
         "consider asynchronous patterns"
       sourceId := sourceId
       line := some first.line }]
  | _, _ => []

def ofLines (config : Config) (sourceId : String) (responseLimit : Option Number)
    (lines : List LineTiming) : Except Fault TimingEstimate := do
  let (execution, timers) ← lines.foldlM (addLine config) (0.0, [])
  let delays := lines.flatMap fun shown =>
    shown.delays.map fun (call, duration) => DelayCall.mk shown.line call duration
  let blocking := lines.flatMap fun shown => shown.operations.map (BlockingOperation.mk shown.line)
  let loopLines := (lines.filter LineTiming.hasLoop).map LineTiming.line
  let delayNotes ← delays.mapM (delayFindings config sourceId responseLimit)
  let executionNotes ← executionFindings config sourceId execution
  return {
    executionMs := execution
    delays := delays
    timers := timers
    blocking := blocking
    loopLines := loopLines
    findings := timerFindings sourceId timers ++ delayNotes.flatten ++ executionNotes ++
      blockingFindings sourceId blocking loopLines }

/-- The estimate for a source, with the method calls that were found in it. -/
def ofSource (config : Config) (text sourceId : String) (calls : List MethodCall)
    (responseLimit : Option Number) : Except Fault TimingEstimate :=
  let methods := (config.timing .blockingMethods).items
  ofLines config sourceId responseLimit
    ((codeLines text.toList).map (LineTiming.ofCode (LineTiming.attributed methods calls)))

end TimingEstimate

end PinBudget
