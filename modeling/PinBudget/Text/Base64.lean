/-!
Base64 text: four characters for three bytes, with padding behind an incomplete group.
-/
namespace PinBudget.Base64

/-- The six bits that a character of the alphabet stands for. -/
def value? (c : Char) : Option Nat :=
  if 'A' ≤ c && c ≤ 'Z' then some (c.toNat - 'A'.toNat)
  else if 'a' ≤ c && c ≤ 'z' then some (c.toNat - 'a'.toNat + 26)
  else if '0' ≤ c && c ≤ '9' then some (c.toNat - '0'.toNat + 52)
  else if c == '+' then some 62
  else if c == '/' then some 63
  else none

/-- The bytes of groups of six bits; bits that fill no byte are dropped. -/
def bytes : List Nat → List UInt8
  | a :: b :: c :: d :: rest =>
    .ofNat (4 * a + b / 16) :: .ofNat (16 * (b % 16) + c / 4) :: .ofNat (64 * (c % 4) + d) ::
      bytes rest
  | [a, b, c] => [.ofNat (4 * a + b / 16), .ofNat (16 * (b % 16) + c / 4)]
  | [a, b] => [.ofNat (4 * a + b / 16)]
  | _ => []

/-- Whether so many padding characters may stand behind so many characters of data. An incomplete
group is filled up exactly; behind complete groups any padding is ignored. -/
def padded (data padding : Nat) : Bool :=
  match data % 4 with
  | 0 => data != 0 || padding == 0
  | 1 => false
  | 2 => padding == 2
  | _ => padding == 1

/-- The bytes of a text that is data from the alphabet and padding behind it, and nothing else. -/
def decode? (text : List Char) : Option (List UInt8) :=
  let (data, padding) := text.span fun c => (value? c).isSome
  if padding.all (· == '=') && padded data.length padding.length then
    some (bytes (data.filterMap value?))
  else none

end PinBudget.Base64
