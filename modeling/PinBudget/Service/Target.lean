import PinBudget.Text.Utf8

/-!
Targets of requests: from what a client writes to the path that the service sees. A target may name
a scheme and a host, which do not matter; its query and its fragment are left out, its dots are
followed, and its percent signs are decoded twice, once by the client and once by the service.
-/
namespace PinBudget.Service.Target

/-- Whether a text can be a scheme: a letter, then letters, digits, plus signs, dots and dashes. -/
private def isScheme (text : List Char) : Bool :=
  match text with
  | first :: rest =>
    first.isAlpha && rest.all fun c => c.isAlphanum || c == '+' || c == '.' || c == '-'
  | [] => false

private def withoutScheme (target : List Char) : List Char :=
  let (front, rest) := target.span (· != ':')
  match rest with
  | ':' :: behind => if isScheme front then behind else target
  | _ => target

private def withoutHost (target : List Char) : List Char :=
  match target with
  | '/' :: '/' :: rest => rest.dropWhile (· != '/')
  | _ => target

/-- The components of a path with its dots followed. The root has no parent. -/
private def followDots (components : List (List Char)) : List (List Char) :=
  components.foldl
    (fun reached component =>
      if component == ['.'] then reached
      else if component == ['.', '.'] then
        if reached == [[]] then reached else reached.dropLast
      else reached ++ [component])
    []

private def cutAtSlashes : List Char → List (List Char)
  | [] => [[]]
  | c :: rest =>
    if c == '/' then [] :: cutAtSlashes rest
    else
      match cutAtSlashes rest with
      | first :: others => (c :: first) :: others
      | [] => [[c]]

private def hexDigit? (c : Char) : Option Nat :=
  if '0' ≤ c && c ≤ '9' then some (c.toNat - '0'.toNat)
  else if 'a' ≤ c && c ≤ 'f' then some (c.toNat - 'a'.toNat + 10)
  else if 'A' ≤ c && c ≤ 'F' then some (c.toNat - 'A'.toNat + 10)
  else none

/-- The bytes of a text in which a percent sign and two hexadecimal digits stand for a byte. -/
def percentBytes : List Char → List UInt8
  | [] => []
  | '%' :: high :: low :: rest =>
    match hexDigit? high, hexDigit? low with
    | some first, some second => UInt8.ofNat (16 * first + second) :: percentBytes rest
    | _, _ => Utf8.encode "%" ++ percentBytes (high :: low :: rest)
  | c :: rest => Utf8.encode (String.singleton c) ++ percentBytes rest

/-- The text that percent signs stand for. Bytes that are no text give the replacement character,
which no path of the service has. -/
def decodePercent (text : List Char) : List Char :=
  match Utf8.decode (percentBytes text) with
  | .ok decoded => decoded
  | .error _ => [Char.ofNat 0xfffd]

/-- The path that a target asks for. -/
def path (target : String) : String :=
  let asked := target.toList.takeWhile fun c => c != '?' && c != '#'
  let written := '/' :: (withoutHost (withoutScheme asked)).dropWhile (· == '/')
  let followed := ['/'].intercalate (followDots (cutAtSlashes written))
  String.ofList (decodePercent (decodePercent followed))

end PinBudget.Service.Target
