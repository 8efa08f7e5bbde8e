import PinBudget.Json.Basic

/-!
Reading JSON documents. Beside the standard grammar the words `NaN`, `Infinity` and `-Infinity` are
numbers. An error says what was expected and where. Brackets are followed only down to a depth.
-/
namespace PinBudget.Json

/-- Why reading stops: an expectation that failed with so many characters left, or a number or a
nesting beyond its limit. -/
inductive ReadError where
  | expectation (problem : String) (remaining : Nat)
  | fault (fault : Fault)

/-- A part of a document and the text behind it. -/
abbrev Reading (α : Type) := Except ReadError (α × List Char)

private def failAt {α : Type} (problem : String) (text : List Char) : Except ReadError α :=
  .error (.expectation problem text.length)

private def isSpace (c : Char) : Bool :=
  c == ' ' || c == '\t' || c == '\n' || c == '\r'

private def skip (text : List Char) : List Char :=
  text.dropWhile isSpace

private def hexValue? (c : Char) : Option Nat :=
  if '0' ≤ c && c ≤ '9' then some (c.toNat - '0'.toNat)
  else if 'a' ≤ c && c ≤ 'f' then some (c.toNat - 'a'.toNat + 10)
  else if 'A' ≤ c && c ≤ 'F' then some (c.toNat - 'A'.toNat + 10)
  else none

/-- The unit that four hexadecimal digits stand for; a further character must follow them. -/
private def unit? : List Char → Option (Nat × List Char)
  | a :: b :: c :: d :: next :: rest => do
    let first ← hexValue? a
    let second ← hexValue? b
    let third ← hexValue? c
    let fourth ← hexValue? d
    return (((first * 16 + second) * 16 + third) * 16 + fourth, next :: rest)
  | _ => none

/-- The character that a unit begins. A leading half takes the trailing half behind it along; a half
that stands alone becomes the replacement character. -/
private def charOfUnit (unit : Nat) (text : List Char) : Char × List Char :=
  if 0xd800 ≤ unit && unit < 0xdc00 then
    match text with
    | '\\' :: 'u' :: more =>
      match unit? more with
      | some (low, rest) =>
        if 0xdc00 ≤ low && low < 0xe000 then
          (Char.ofNat (0x10000 + (unit - 0xd800) * 0x400 + (low - 0xdc00)), rest)
        else (Char.ofNat 0xfffd, text)
      | none => (Char.ofNat 0xfffd, text)
    | _ => (Char.ofNat 0xfffd, text)
  else if 0xdc00 ≤ unit && unit < 0xe000 then (Char.ofNat 0xfffd, text)
  else (Char.ofNat unit, text)

private theorem length_of_unit? {text rest : List Char} {unit : Nat}
    (h : unit? text = some (unit, rest)) : rest.length ≤ text.length := by
  unfold unit? at h
  split at h
  · simp only [Option.bind_eq_bind, Option.bind_eq_some_iff] at h
    obtain ⟨_, _, _, _, _, _, _, _, equal⟩ := h
    simp only [Option.pure_def, Option.some.injEq, Prod.mk.injEq] at equal
    simp only [← equal.2, List.length_cons]
    omega
  · simp at h

private theorem length_charOfUnit_le (unit : Nat) (text : List Char) :
    (charOfUnit unit text).2.length ≤ text.length := by
  unfold charOfUnit
  split
  · split
    · split
      · rename_i found
        have := length_of_unit? found
        split
        · simp only [List.length_cons]
          omega
        · simp
      · simp
    · simp
  · split <;> simp

private def simpleEscape? (c : Char) : Option Char :=
  match c with
  | '"' => some '"'
  | '\\' => some '\\'
  | '/' => some '/'
  | 'b' => some (Char.ofNat 8)
  | 'f' => some (Char.ofNat 12)
  | 'n' => some '\n'
  | 'r' => some '\r'
  | 't' => some '\t'
  | _ => none

/-- The rest of a text whose opening quote has been read, with `read` its reversed beginning.
`quote` is the document from the opening quote on. -/
private def textAfter (quote read : List Char) (text : List Char) : Reading String :=
  match text with
  | [] => failAt "Unterminated string starting at" quote
  | '"' :: rest => .ok (String.ofList read.reverse, rest)
  | '\\' :: [] => failAt "Unterminated string starting at" quote
  | '\\' :: 'u' :: rest =>
    match _ : unit? rest with
    | none => failAt "Invalid \\uXXXX escape" ('u' :: rest)
    | some (unit, after) =>
      let decoded := charOfUnit unit after
      textAfter quote (decoded.1 :: read) decoded.2
  | '\\' :: c :: rest =>
    match simpleEscape? c with
    | some plain => textAfter quote (plain :: read) rest
    | none => failAt "Invalid \\escape" text
  | c :: rest =>
    if c.toNat < 32 then failAt "Invalid control character at" text
    else textAfter quote (c :: read) rest
termination_by text.length
decreasing_by
  · have := length_of_unit? ‹_›
    have := length_charOfUnit_le unit after
    simp only [List.length_cons]
    omega
  · simp only [List.length_cons]
    omega
  · simp

private def readText (quote rest : List Char) : Reading String :=
  textAfter quote [] rest

private def digitsNumber (digits : List Char) : Nat :=
  digits.foldl (fun sum c => 10 * sum + (c.toNat - '0'.toNat)) 0

/-- The fraction of a number: a point with digits behind it. -/
private def fraction (text : List Char) : List Char × List Char :=
  match text with
  | '.' :: rest =>
    let (digits, after) := rest.span Char.isDigit
    if digits.isEmpty then ([], text) else (digits, after)
  | _ => ([], text)

/-- The exponent of a number, if its mark has digits behind it. -/
private def exponent? (text : List Char) : Option (Int × List Char) :=
  match text with
  | mark :: rest =>
    if mark == 'e' || mark == 'E' then
      let (negative, body) := Numeral.spanSign rest
      let (digits, after) := body.span Char.isDigit
      if digits.isEmpty then none
      else some (Numeral.signed negative (digitsNumber digits), after)
    else none
  | [] => none

private def readNumber (text : List Char) : Reading Json :=
  let (negative, body) := match text with
    | '-' :: rest => (true, rest)
    | _ => (false, text)
  let (digits, after) := match body with
    | '0' :: rest => (['0'], rest)
    | _ => body.span Char.isDigit
  if digits.isEmpty then failAt "Expecting value" text
  else
    let (places, afterPlaces) := fraction after
    match exponent? afterPlaces with
    | some (exponent, rest) =>
      .ok (float (Numeral.scaled negative (digits ++ places) (exponent - places.length)), rest)
    | none =>
      if places.isEmpty then
        match Numeral.ofDigits digits with
        | .ok size => .ok (int (Numeral.signed negative size), afterPlaces)
        | .error fault => .error (.fault fault)
      else
        let value := Numeral.scaled negative (digits ++ places) (-(places.length : Int))
        .ok (float value, afterPlaces)

/-- The words of the grammar with what they stand for. -/
private def words : List (String × Json) :=
  [("null", null), ("true", bool true), ("false", bool false), ("NaN", float (0.0 / 0.0)),
    ("Infinity", float (1.0 / 0.0)), ("-Infinity", float (-1.0 / 0.0))]

private def readWord? (text : List Char) : Option (Json × List Char) :=
  words.findSome? fun (word, value) =>
    if word.toList.isPrefixOf text then some (value, text.drop word.length) else none

/-- The brackets that may be open at the same time. -/
def nestingLimit : Nat := 989

mutual

/-- A value at the front of a text, with `depth` more brackets that may be opened. -/
private def readValue (fuel depth : Nat) (text : List Char) : Reading Json :=
  match fuel with
  | 0 => failAt "Expecting value" text
  | fuel + 1 =>
    match text with
    | '"' :: rest => (readText text rest).map fun (value, after) => (str value, after)
    | '[' :: rest =>
      if depth == 0 then .error (.fault .nestedTooDeeply)
      else
        match skip rest with
        | ']' :: after => .ok (arr [], after)
        | inner => readItems fuel (depth - 1) [] inner
    | c :: rest =>
      if c == '\x7b' then
        if depth == 0 then .error (.fault .nestedTooDeeply)
        else
          match skip rest with
          | [] => failAt "Expecting property name enclosed in double quotes" []
          | next :: after =>
            if next == '\x7d' then .ok (obj [], after)
            else readFields fuel (depth - 1) [] (next :: after)
      else
        match readWord? text with
        | some reading => .ok reading
        | none => readNumber text
    | [] => failAt "Expecting value" text

/-- The items of an array from one of them on, with `read` the reversed earlier ones. -/
private def readItems (fuel depth : Nat) (read : List Json) (text : List Char) : Reading Json :=
  match fuel with
  | 0 => failAt "Expecting value" text
  | fuel + 1 =>
    match readValue fuel depth text with
    | .error error => .error error
    | .ok (item, after) =>
      match skip after with
      | ']' :: rest => .ok (arr (item :: read).reverse, rest)
      | ',' :: rest => readItems fuel depth (item :: read) (skip rest)
      | other => failAt "Expecting ',' delimiter" other

/-- The fields of an object from one of them on, with `read` the earlier ones. -/
private def readFields (fuel depth : Nat) (read : List (String × Json)) (text : List Char) :
    Reading Json :=
  match fuel with
  | 0 => failAt "Expecting value" text
  | fuel + 1 =>
    match text with
    | '"' :: quotedRest =>
      match readText text quotedRest with
      | .error error => .error error
      | .ok (key, afterKey) =>
        match skip afterKey with
        | ':' :: afterColon =>
          match readValue fuel depth (skip afterColon) with
          | .error error => .error error
          | .ok (value, afterValue) =>
            let fields := Dict.set read key value
            match skip afterValue with
            | ',' :: rest => readFields fuel depth fields (skip rest)
            | c :: rest =>
              if c == '\x7d' then .ok (obj fields, rest)
              else failAt "Expecting ',' delimiter" (c :: rest)
            | [] => failAt "Expecting ',' delimiter" []
        | other => failAt "Expecting ':' delimiter" other
    | other => failAt "Expecting property name enclosed in double quotes" other

end

/-- The fault of an expectation that failed at an offset of a text. -/
private def faultAt (text : List Char) (problem : String) (offset : Nat) : Fault :=
  let before := text.take offset
  let line := before.count '\n' + 1
  let column := (before.reverse.takeWhile (· != '\n')).length + 1
  .malformedJson problem line column offset

def parse (text : List Char) : Except Fault Json :=
  let fault (error : ReadError) : Fault := match error with
    | .expectation problem remaining => faultAt text problem (text.length - remaining)
    | .fault fault => fault
  if text.head? == some (Char.ofNat 0xfeff) then
    .error (faultAt text "Unexpected UTF-8 BOM (decode using utf-8-sig)" 0)
  else
    match readValue (2 * text.length + 2) nestingLimit (skip text) with
    | .error error => .error (fault error)
    | .ok (value, after) =>
      match skip after with
      | [] => .ok value
      | extra => .error (faultAt text "Extra data" (text.length - extra.length))

end PinBudget.Json
