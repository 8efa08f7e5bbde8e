import PinBudget.Pin.Basic

/-!
Everything that can stop a computation, one constructor per cause, and the wording of each.
What is only recorded while the work goes on is an `Issue`.
-/
namespace PinBudget

inductive IssueKind where
  | invalidPinFormat
  | pinOutOfRange
  | unsupportedPeripheralForPin
  | unknownPeripheralKind
  | duplicatePinClaim
  | crossFileConflict
  | fileNotFound
  | malformedBytecodeHeader
  deriving DecidableEq, Repr

def IssueKind.name : IssueKind → String
  | invalidPinFormat => "invalid_pin_format"
  | pinOutOfRange => "pin_out_of_range"
  | unsupportedPeripheralForPin => "unsupported_peripheral_for_pin"
  | unknownPeripheralKind => "unknown_peripheral_kind"
  | duplicatePinClaim => "duplicate_pin_claim"
  | crossFileConflict => "cross_file_conflict"
  | fileNotFound => "file_not_found"
  | malformedBytecodeHeader => "malformed_bytecode_header"

/-- One recorded error, tied to the source line that caused it. -/
structure Issue where
  kind : IssueKind
  message : String
  sourceId : String
  line : Option Int
  deriving DecidableEq, Repr

/-- Why a value names no physical pin. Values are kept in the form in which they are shown. -/
inductive PinError where
  | unsupported (shown : String)
  | malformedText (text : String)
  | textBeyondPort (text : String) (port : Port)
  | numberBeyondBoard (number : Int)
  | malformedPair (shown : String)
  | pairWithoutPort (shown : String)
  | pairBeyondPort (shown : String)
  | numberBeyondPort (port : Port) (number : Int)
  deriving DecidableEq, Repr

namespace PinError

/-- Whether the value is malformed, or well formed and outside the board. -/
def issueKind : PinError → IssueKind
  | unsupported _ | malformedText _ | malformedPair _ => .invalidPinFormat
  | textBeyondPort .. | numberBeyondBoard _ | pairWithoutPort _ | pairBeyondPort _
  | numberBeyondPort .. => .pinOutOfRange

def message : PinError → String
  | unsupported shown =>
    s!"Invalid pin value: {shown}. Use 'A0'-'A4', 'B0'-'B15', a number 0-{Pin.count - 1} " ++
      "or a [port, pin] pair"
  | malformedText text =>
    s!"Invalid pin string format: {text}. Use format like 'A0', 'B3', 'RA1', 'RB15'"
  | textBeyondPort text port =>
    s!"Invalid pin {text}: Port {port.name} only has pins 0-{port.size - 1}"
  | numberBeyondBoard number =>
    s!"Invalid pin number: {number}. Valid range: 0-{Pin.count - 1}"
  | malformedPair shown =>
    s!"Invalid pin pair: {shown}. Expected [port, pin] with non-negative integers"
  | pairWithoutPort shown =>
    s!"Invalid pin pair: {shown}. Port must be 1 (A) or 2 (B)"
  | pairBeyondPort shown =>
    s!"Invalid pin pair: {shown}. Valid ports: {Port.a.rangeText}, {Port.b.rangeText}"
  | numberBeyondPort port number =>
    s!"Invalid pin {port.name}{number}: Port {port.name} only has pins 0-{port.size - 1}"

end PinError

inductive Utf8Problem where
  | invalidStart
  | invalidContinuation
  | unexpectedEnd
  deriving DecidableEq, Repr

def Utf8Problem.message : Utf8Problem → String
  | invalidStart => "invalid start byte"
  | invalidContinuation => "invalid continuation byte"
  | unexpectedEnd => "unexpected end of data"

/-- A cause that stops a computation. A numeral is too long to be read, an integer too long to be
written; what is `shown` is kept in the form in which messages quote it. -/
inductive Fault where
  | pin (error : PinError)
  | unknownKind (name : String)
  | unknownPort (shown : String)
  | numeralTooLong (digits : Nat)
  | integerTooLong
  | malformedNumeral (shown : String)
  | headerTruncated (length : Nat)
  | headerMissing (mark : String)
  | unknownSettings (scope : String) (names : List String)
  | configNotObject (path : String)
  | configNotPairs (index length : Nat)
  | negativeMarkLength
  | markByteOutOfRange
  | notAscii (first last : Nat) (shown : String)
  | notUtf8 (first last byte : Nat) (problem : Utf8Problem)
  | malformedJson (problem : String) (line column offset : Nat)
  | fileNotFound (path : String)
  | isDirectory (path : String)
  | notDirectory (path : String)
  | nameTooLong (path : String)
  | nullInPath
  | malformedTemplate (problem : String)
  | notANumber
  | wrongType
  | noSuchOperation
  | missingName
  | missingPosition
  | overflow
  | divisionByZero
  | nestedTooDeeply
  | outOfMemory
  deriving DecidableEq, Repr

namespace Fault

/-- The number of decimal digits beyond which integers are neither read nor written. -/
def digitLimit : Nat := 4300

private def codecMessage (codec shown reason : String) : String :=
  s!"'{codec}' codec can't {shown}: {reason}"

private def hexByte (byte : Nat) : String :=
  let digits := Nat.toDigits 16 byte
  String.ofList ("0x".toList ++ List.replicate (2 - digits.length) '0' ++ digits)

def message : Fault → String
  | pin error => error.message
  | unknownKind name =>
    s!"Unknown peripheral: {name}. Supported: ADC, PWM, GPIO, I2C, SPI, UART"
  | unknownPort shown => s!"{shown} is not a valid Port"
  | numeralTooLong digits =>
    s!"Exceeds the limit ({digitLimit} digits) for integer string conversion: value has " ++
      s!"{digits} digits; use sys.set_int_max_str_digits() to increase the limit"
  | integerTooLong =>
    s!"Exceeds the limit ({digitLimit} digits) for integer string conversion; " ++
      "use sys.set_int_max_str_digits() to increase the limit"
  | malformedNumeral shown => s!"invalid literal for int() with base 10: {shown}"
  | headerTruncated length =>
    s!"Invalid mruby bytecode file: header truncated ({length} bytes, need 12)"
  | headerMissing mark => s!"Invalid mruby bytecode file: missing {mark} header"
  | unknownSettings scope names =>
    let place := if scope.isEmpty then "" else scope ++ " "
    let listed := ", ".intercalate names
    s!"Unknown {place}config key(s): {listed}"
  | configNotObject path => s!"{path}: config must be a JSON object"
  | configNotPairs index length =>
    s!"dictionary update sequence element #{index} has length {length}; 2 is required"
  | negativeMarkLength => "negative count"
  | markByteOutOfRange => "bytes must be in range(0, 256)"
  | notAscii first last shown =>
    codecMessage "ascii"
      (if first == last then s!"encode character '{shown}' in position {first}"
        else s!"encode characters in position {first}-{last}")
      "ordinal not in range(128)"
  | notUtf8 first last byte problem =>
    codecMessage "utf-8"
      (if first == last then s!"decode byte {hexByte byte} in position {first}"
        else s!"decode bytes in position {first}-{last}")
      problem.message
  | malformedJson problem line column offset =>
    s!"{problem}: line {line} column {column} (char {offset})"
  | fileNotFound shown => s!"[Errno 2] No such file or directory: {shown}"
  | isDirectory shown => s!"[Errno 21] Is a directory: {shown}"
  | notDirectory shown => s!"[Errno 20] Not a directory: {shown}"
  | nameTooLong shown => s!"[Errno 36] File name too long: {shown}"
  | nullInPath => "embedded null byte"
  | malformedTemplate problem => problem
  | notANumber => "cannot convert float NaN to integer"
  | wrongType => "a value has the wrong type"
  | noSuchOperation => "a value lacks the requested operation"
  | missingName => "a name is missing"
  | missingPosition => "a position is missing"
  | overflow => "a number is too large"
  | divisionByZero => "division by zero"
  | nestedTooDeeply => "brackets are nested too deeply"
  | outOfMemory => ""

/-- The kind under which the fault is recorded, for those that concern the analysed source. -/
def issueKind? : Fault → Option IssueKind
  | pin error => some error.issueKind
  | unknownKind _ => some .unknownPeripheralKind
  | headerTruncated _ | headerMissing _ => some .malformedBytecodeHeader
  | _ => none

/-- Whether the fault lies in the content or the place of what was read, so that a message to the
user is enough. -/
def isUserError : Fault → Bool
  | pin _ | unknownKind _ | unknownPort _ | numeralTooLong _ | integerTooLong
  | malformedNumeral _ | unknownSettings .. | configNotObject _ | configNotPairs ..
  | negativeMarkLength | markByteOutOfRange | notAscii .. | notUtf8 .. | malformedJson ..
  | fileNotFound _ | isDirectory _ | notDirectory _ | nameTooLong _ | nullInPath
  | malformedTemplate _ | notANumber => true
  | headerTruncated _ | headerMissing _ | wrongType | noSuchOperation | missingName
  | missingPosition | overflow | divisionByZero | nestedTooDeeply | outOfMemory => false

end Fault

end PinBudget
