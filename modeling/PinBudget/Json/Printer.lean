import PinBudget.Json.Basic
import PinBudget.Text.Printable

/-!
Writing JSON documents: on one line, or indented with one item to a line. Only ASCII is written.
-/
namespace PinBudget.Json

/-- The four hexadecimal digits of a sixteen-bit unit, after their mark. -/
private def unitEscape (unit : Nat) : List Char :=
  '\\' :: 'u' :: Text.hexPadded 4 unit

/-- One character inside quotes. A character beyond the sixteen-bit range takes two units. -/
def escaped (c : Char) : List Char :=
  if c == '"' then ['\\', '"']
  else if c == '\\' then ['\\', '\\']
  else if c == '\n' then ['\\', 'n']
  else if c == '\r' then ['\\', 'r']
  else if c == '\t' then ['\\', 't']
  else if c.toNat == 8 then ['\\', 'b']
  else if c.toNat == 12 then ['\\', 'f']
  else if 32 ≤ c.toNat && c.toNat < 127 then [c]
  else if c.toNat < 0x10000 then unitEscape c.toNat
  else
    let offset := c.toNat - 0x10000
    unitEscape (0xd800 + offset / 0x400) ++ unitEscape (0xdc00 + offset % 0x400)

def quotedText (text : String) : String :=
  String.ofList ('"' :: text.toList.flatMap escaped ++ ['"'])

/-- A number; the floating ones without a decimal form are written as words. -/
def numberText : Number → String
  | .int n => toString n
  | .float x =>
    match magnitude x with
    | .undefined => "NaN"
    | .infinite negative => if negative then "-Infinity" else "Infinity"
    | .finite _ => floatText x

private def scalarText : Json → String
  | null => "null"
  | bool value => if value then "true" else "false"
  | number value => numberText value
  | str value => quotedText value
  | arr _ => "[]"
  | obj _ => "\x7b\x7d"

mutual

/-- A text with the document on one line behind it. -/
def compactOnto (front : String) : Json → String
  | arr (first :: rest) => compactItemsOnto (compactOnto (front ++ "[") first) rest ++ "]"
  | obj ((key, first) :: rest) =>
    compactFieldsOnto (compactOnto (front ++ "\x7b" ++ quotedText key ++ ": ") first) rest ++ "\x7d"
  | json => front ++ scalarText json

def compactItemsOnto (front : String) : List Json → String
  | [] => front
  | item :: rest => compactItemsOnto (compactOnto (front ++ ", ") item) rest

def compactFieldsOnto (front : String) : List (String × Json) → String
  | [] => front
  | (key, item) :: rest =>
    compactFieldsOnto (compactOnto (front ++ ", " ++ quotedText key ++ ": ") item) rest

end

/-- The document on one line. -/
def compact (json : Json) : String :=
  compactOnto "" json

/-- The start of a line at a depth of two spaces each. -/
private def newline (depth : Nat) : String :=
  String.ofList ('\n' :: List.replicate (2 * depth) ' ')

mutual

/-- A text with the document behind it, as it stands at a depth with one item to a line. -/
def indentedOnto (front : String) (depth : Nat) : Json → String
  | arr (first :: rest) =>
    indentedItemsOnto (indentedOnto (front ++ "[" ++ newline (depth + 1)) (depth + 1) first)
      (depth + 1) rest ++ newline depth ++ "]"
  | obj ((key, first) :: rest) =>
    indentedFieldsOnto
      (indentedOnto (front ++ "\x7b" ++ newline (depth + 1) ++ quotedText key ++ ": ") (depth + 1)
        first)
      (depth + 1) rest ++ newline depth ++ "\x7d"
  | json => front ++ scalarText json

def indentedItemsOnto (front : String) (depth : Nat) : List Json → String
  | [] => front
  | item :: rest =>
    indentedItemsOnto (indentedOnto (front ++ "," ++ newline depth) depth item) depth rest

def indentedFieldsOnto (front : String) (depth : Nat) : List (String × Json) → String
  | [] => front
  | (key, item) :: rest =>
    indentedFieldsOnto
      (indentedOnto (front ++ "," ++ newline depth ++ quotedText key ++ ": ") depth item) depth rest

end

/-- The document with one item to a line, unless a number is too long to be written. -/
def indented (json : Json) : Except Fault String :=
  if json.isWritable then .ok (json.indentedOnto "" 0) else .error .integerTooLong

end PinBudget.Json
