import PinBudget.Fault

/-!
UTF-8: bytes as text and text as bytes. The first byte of a character says how many bytes follow and
which values the next one may take.
-/
namespace PinBudget.Utf8

/-- What the first byte of a character asks for: its own bits, how many bytes follow, and the bounds
of the byte behind it. -/
structure Lead where
  bits : Nat
  following : Nat
  low : Nat := 0x80
  high : Nat := 0xbf
  deriving DecidableEq, Repr

/-- The meaning of a first byte. Longer forms than needed, surrogates and codes beyond the last
character are ruled out here. -/
def lead? (byte : Nat) : Option Lead :=
  if byte < 0x80 then some { bits := byte, following := 0 }
  else if byte < 0xc2 then none
  else if byte < 0xe0 then some { bits := byte - 0xc0, following := 1 }
  else if byte == 0xe0 then some { bits := 0, following := 2, low := 0xa0 }
  else if byte == 0xed then some { bits := 0xd, following := 2, high := 0x9f }
  else if byte < 0xf0 then some { bits := byte - 0xe0, following := 2 }
  else if byte == 0xf0 then some { bits := 0, following := 3, low := 0x90 }
  else if byte < 0xf4 then some { bits := byte - 0xf0, following := 3 }
  else if byte == 0xf4 then some { bits := 4, following := 3, high := 0x8f }
  else none

/-- The bytes behind a first byte that can belong to its character, at most as many as it needs. -/
def Lead.tail (lead : Lead) (bytes : List UInt8) : List UInt8 :=
  match bytes.take lead.following with
  | [] => []
  | next :: others =>
    if lead.low ≤ next.toNat && next.toNat ≤ lead.high then
      next :: others.takeWhile fun byte => 0x80 ≤ byte.toNat && byte.toNat ≤ 0xbf
    else []

/-- The code of a character from the bits of its first byte and its further bytes. -/
def code (bits : Nat) (tail : List UInt8) : Nat :=
  tail.foldl (fun code byte => 64 * code + (byte.toNat - 0x80)) bits

/-- The text of bytes from a position on. -/
def decodeFrom (position : Nat) : List UInt8 → Except Fault (List Char)
  | [] => .ok []
  | first :: rest =>
    match lead? first.toNat with
    | none => .error (.notUtf8 position position first.toNat .invalidStart)
    | some lead =>
      let tail := lead.tail rest
      if tail.length == lead.following then
        (decodeFrom (position + 1 + tail.length) (rest.drop tail.length)).map
          (Char.ofNat (code lead.bits tail) :: ·)
      else
        let problem : Utf8Problem :=
          if tail.length == rest.length then .unexpectedEnd else .invalidContinuation
        .error (.notUtf8 position (position + tail.length) first.toNat problem)
termination_by bytes => bytes.length
decreasing_by
  simp only [List.length_cons, List.length_drop]
  omega

def decode (bytes : List UInt8) : Except Fault (List Char) :=
  decodeFrom 0 bytes

def encode (text : String) : List UInt8 :=
  text.toUTF8.toList

end PinBudget.Utf8
