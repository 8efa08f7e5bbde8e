import PinBudget.Estimate.Bytecode

/-!
Headers of bytecode. A header is accepted exactly if the bytes have room for it and begin with the
mark, whatever the mark's length, and the stated size is the number of the four bytes behind the
first eight. Every size of four bytes can be stated. A malformed header is one error of the check
and nothing else.
-/
namespace PinBudget

namespace Bytecode

variable {mark data : List UInt8} {number : Nat}

/-- The bytes have room for a header and begin with the mark. -/
def HasHeader (mark data : List UInt8) : Prop :=
  12 ≤ data.length ∧ mark <+: data

instance (mark data : List UInt8) : Decidable (HasHeader mark data) :=
  inferInstanceAs (Decidable (_ ∧ _))

def byteAt (data : List UInt8) (position : Nat) : Nat :=
  (data.getD position 0).toNat

/-- A number in so many bytes, the least one first. -/
def toBytes : Nat → Nat → List UInt8
  | 0, _ => []
  | width + 1, number => .ofNat number :: toBytes width (number / 256)

theorem length_toBytes (width number : Nat) : (toBytes width number).length = width := by
  induction width generalizing number with
  | zero => rfl
  | succ width ih => rw [toBytes, List.length_cons, ih]

theorem littleEndian_cons (byte : UInt8) (rest : List UInt8) :
    littleEndian (byte :: rest) = byte.toNat + 256 * littleEndian rest :=
  rfl

theorem littleEndian_lt (bytes : List UInt8) : littleEndian bytes < Nat.pow 256 bytes.length := by
  induction bytes with
  | nil => exact Nat.one_pos
  | cons byte rest ih =>
    have small : byte.toNat < 256 := byte.toNat_lt
    have power : Nat.pow 256 (rest.length + 1) = Nat.pow 256 rest.length * 256 := rfl
    rw [littleEndian_cons, List.length_cons, power]
    omega

theorem pow_bytes : Nat.pow 256 4 = Nat.pow 2 32 := by
  decide

theorem littleEndian_toBytes {width : Nat} (fits : number < Nat.pow 256 width) :
    littleEndian (toBytes width number) = number := by
  induction width generalizing number with
  | zero => exact (Nat.lt_one_iff.mp fits).symm
  | succ width ih =>
    have power : Nat.pow 256 (width + 1) = Nat.pow 256 width * 256 := rfl
    rw [power] at fits
    rw [toBytes, littleEndian_cons, ih (Nat.div_lt_of_lt_mul (by omega)), UInt8.toNat_ofNat']
    omega

theorem sizeField_eq (long : 12 ≤ data.length) :
    (data.drop sizeOffset).take 4 =
      [data.getD 8 0, data.getD 9 0, data.getD 10 0, data.getD 11 0] := by
  have byte {position : Nat} (inside : position < 12) :
      data.drop position = data.getD position 0 :: data.drop (position + 1) := by
    have within : position < data.length := by omega
    rw [List.drop_eq_getElem_cons within, List.getD_eq_getElem?_getD,
      List.getElem?_eq_getElem within]
    rfl
  rw [sizeOffset, byte (by decide), byte (by decide), byte (by decide), byte (by decide)]
  rfl

theorem littleEndian_sizeField (long : 12 ≤ data.length) :
    littleEndian ((data.drop sizeOffset).take 4) =
      byteAt data 8 + 256 * byteAt data 9 + 65536 * byteAt data 10 + 16777216 * byteAt data 11 := by
  rw [sizeField_eq long]
  simp only [littleEndian, List.foldr_cons, List.foldr_nil, byteAt]
  omega

theorem readSize_of_hasHeader (header : HasHeader mark data) :
    readSize mark data = .ok (littleEndian ((data.drop sizeOffset).take 4)) := by
  have long : ¬data.length < headerSize := Nat.not_lt.mpr header.1
  have marked : mark.isPrefixOf data = true := List.isPrefixOf_iff_prefix.mpr header.2
  rw [readSize, if_neg long, marked]
  rfl

theorem readSize_of_not_hasHeader (malformed : ¬HasHeader mark data) :
    ∃ fault, readSize mark data = .error fault ∧
      fault.issueKind? = some .malformedBytecodeHeader := by
  rw [readSize]
  split
  · exact ⟨_, rfl, rfl⟩
  · rename_i long
    have unmarked : mark.isPrefixOf data = false := by
      apply Bool.eq_false_iff.mpr
      intro marked
      exact malformed ⟨Nat.not_lt.mp long, List.isPrefixOf_iff_prefix.mp marked⟩
    rw [unmarked]
    exact ⟨_, rfl, rfl⟩

theorem readSize_eq_ok_iff {size : Nat} :
    readSize mark data = .ok size ↔
      HasHeader mark data ∧ littleEndian ((data.drop sizeOffset).take 4) = size := by
  by_cases header : HasHeader mark data
  · rw [readSize_of_hasHeader header]
    simp [header]
  · obtain ⟨fault, failed, -⟩ := readSize_of_not_hasHeader header
    rw [failed]
    simp [header]

theorem lt_of_readSize {size : Nat} (read : readSize mark data = .ok size) :
    size < Nat.pow 2 32 := by
  obtain ⟨header, rfl⟩ := readSize_eq_ok_iff.mp read
  have bound := littleEndian_lt ((data.drop sizeOffset).take 4)
  have four : ((data.drop sizeOffset).take 4).length = 4 := by
    rw [sizeField_eq header.1]
    rfl
  rwa [four, pow_bytes] at bound

theorem byteAt_congr {other : List UInt8} {position : Nat}
    (same : other[position]? = data[position]?) : byteAt other position = byteAt data position := by
  rw [byteAt, byteAt, List.getD_eq_getElem?_getD, List.getD_eq_getElem?_getD, same]

/-- Of two headers, only the bytes eight to eleven have a say in the size. -/
theorem readSize_congr {other : List UInt8} (header : HasHeader mark data)
    (further : HasHeader mark other)
    (same : ∀ position, 8 ≤ position → position < 12 → other[position]? = data[position]?) :
    readSize mark other = readSize mark data := by
  have byte (position : Nat) (low : 8 ≤ position) (high : position < 12) :
      byteAt other position = byteAt data position := byteAt_congr (same position low high)
  rw [readSize_of_hasHeader header, readSize_of_hasHeader further,
    littleEndian_sizeField header.1, littleEndian_sizeField further.1, byte 8 (by decide) (by decide),
    byte 9 (by decide) (by decide), byte 10 (by decide) (by decide), byte 11 (by decide) (by decide)]

theorem readSize_written {filler rest : List UInt8} {size : Nat}
    (room : mark.length + filler.length = sizeOffset) (fits : size < Nat.pow 256 4) :
    readSize mark (mark ++ filler ++ toBytes 4 size ++ rest) = .ok size := by
  rw [readSize_eq_ok_iff]
  have front : (mark ++ filler).length = sizeOffset := by rw [List.length_append, room]
  refine ⟨⟨?_, ?_⟩, ?_⟩
  · rw [List.length_append, List.length_append, front, length_toBytes, sizeOffset]
    omega
  · exact ⟨filler ++ toBytes 4 size ++ rest, by simp only [List.append_assoc]⟩
  · have field : (toBytes 4 size ++ rest).take 4 = toBytes 4 size :=
      List.take_left' (length_toBytes 4 size)
    rw [List.append_assoc, List.drop_left' front, field, littleEndian_toBytes fits]

end Bytecode

namespace BytecodeCheck

/-- The check of a malformed header is one error, which says what is malformed. -/
theorem ofBytes_of_error {config : Config} {data : List UInt8} {fault : Fault}
    (failed : Bytecode.readSize config.mark data = .error fault) (sourceId : String) :
    ofBytes config data sourceId = .ok
      { findings :=
          [{ severity := .error
             category := .bytecode
             message := fault.message
             sourceId := sourceId }] } := by
  rw [ofBytes, failed]
  rfl

end BytecodeCheck

namespace Bytecode

/-- For all bytes and every mark: a header is accepted exactly if there are twelve bytes and the
first ones are the mark, with the size that the bytes eight to eleven make up, the least one first;
so the size is below two to the thirty-second, and no other byte has a say in it. Any other header
is reported as malformed, and its check knows no size and has this one error. Every such size can be
stated: behind a mark and a filler of eight bytes together, it is read back whatever follows. -/
theorem header_read_exactly (mark data : List UInt8) :
    (∀ size, readSize mark data = .ok size ↔
        HasHeader mark data ∧
          size = byteAt data 8 + 256 * byteAt data 9 + 65536 * byteAt data 10 +
            16777216 * byteAt data 11) ∧
      (∀ size, readSize mark data = .ok size → size < Nat.pow 2 32) ∧
      (∀ other, HasHeader mark data → HasHeader mark other →
        (∀ position, 8 ≤ position → position < 12 → other[position]? = data[position]?) →
        readSize mark other = readSize mark data) ∧
      (¬HasHeader mark data → ∃ fault, readSize mark data = .error fault ∧
        fault.issueKind? = some .malformedBytecodeHeader ∧
        ∀ config : Config, config.mark = mark → ∀ sourceId,
          BytecodeCheck.ofBytes config data sourceId = .ok
            { sizeBytes := none
              findings :=
                [{ severity := .error
                   category := .bytecode
                   message := fault.message
                   sourceId := sourceId }] }) ∧
      ∀ filler rest size, mark.length + filler.length = 8 → size < Nat.pow 2 32 →
        readSize mark (mark ++ filler ++ toBytes 4 size ++ rest) = .ok size := by
  refine ⟨?_, fun size => lt_of_readSize, fun other => readSize_congr, ?_, ?_⟩
  · intro size
    rw [readSize_eq_ok_iff, eq_comm (b := size)]
    exact and_congr_right fun header => by rw [littleEndian_sizeField header.1]
  · intro malformed
    obtain ⟨fault, failed, kind⟩ := readSize_of_not_hasHeader malformed
    refine ⟨fault, failed, kind, ?_⟩
    rintro config rfl sourceId
    exact BytecodeCheck.ofBytes_of_error failed sourceId
  · intro filler rest size room fits
    rw [← pow_bytes] at fits
    exact readSize_written room fits

/-- A mark that reaches into the size, with what an odd end of the file does to it, and the greatest
size behind the usual mark. -/
theorem header_read_exactly_of_long_mark :
    let mark : List UInt8 := [82, 73, 84, 69, 48, 51, 48, 48, 96, 91]
    let data : List UInt8 := mark ++ [3, 0]
    let usual : List UInt8 := [82, 73, 84, 69]
    readSize mark data = .ok 220000 ∧ readSize mark (data ++ [255]) = .ok 220000 ∧
      (∃ fault, readSize mark (mark ++ [3]) = .error fault ∧
        fault.issueKind? = some .malformedBytecodeHeader) ∧
      readSize usual (usual ++ [48, 51, 48, 48] ++ toBytes 4 4294967295 ++ [0]) =
        .ok 4294967295 := by
  intro mark data usual
  obtain ⟨accepted, -, alike, -, -⟩ := header_read_exactly mark data
  obtain ⟨-, -, -, malformed, -⟩ := header_read_exactly mark (mark ++ [3])
  obtain ⟨-, -, -, -, written⟩ := header_read_exactly usual []
  have read : readSize mark data = .ok 220000 := (accepted 220000).mpr (by decide)
  have further : readSize mark (data ++ [255]) = readSize mark data := by
    apply alike _ (by decide) (by decide)
    intro position _ high
    rw [List.getElem?_append_left high]
  obtain ⟨fault, failed, kind, -⟩ := malformed (by decide)
  exact ⟨read, further.trans read, ⟨fault, failed, kind⟩, written _ _ _ rfl (by decide)⟩

end Bytecode

end PinBudget
