import Mathlib.Data.List.TakeDrop
import Mathlib.Data.List.TakeWhile
import PinBudget.Text.Base64

/-!
Base64 text and the bytes that it spells. A grammar says which texts spell which bytes: groups of
four characters for three bytes, then an incomplete group that is filled up, or padding behind the
last complete one. Decoding reads exactly these texts, and all bytes have a text.
-/
namespace PinBudget.Base64

variable {text : List Char} {out : List UInt8} {values : List Nat} {padding : Nat} {c : Char}

/-- The characters of the alphabet, by the six bits that they stand for. -/
def alphabet : List Char :=
  "ABCDEFGHIJKLMNOPQRSTUVWXYZabcdefghijklmnopqrstuvwxyz0123456789+/".toList

/-- The character of six bits. -/
def digit (bits : Nat) : Char :=
  alphabet.getD bits '='

/-- The six bits of each of the four characters of three bytes. -/
def group (x y z : UInt8) : List Nat :=
  [x.toNat / 4, x.toNat % 4 * 16 + y.toNat / 16, y.toNat % 16 * 4 + z.toNat / 64, z.toNat % 64]

/-- The text spells the bytes. An incomplete group is the beginning of a complete one, whatever byte
comes next there; behind a complete group any padding may stand. -/
inductive Spells : List Char → List UInt8 → Prop where
  | nil : Spells [] []
  | one (x next : UInt8) : Spells (((group x next 0).take 2).map digit ++ ['=', '=']) [x]
  | two (x y next : UInt8) : Spells (((group x y next).take 3).map digit ++ ['=']) [x, y]
  | three (x y z : UInt8) (padding : Nat) :
      Spells ((group x y z).map digit ++ List.replicate padding '=') [x, y, z]
  | more (x y z : UInt8) {text : List Char} {out : List UInt8} (others : Spells text out) :
      Spells ((group x y z).map digit ++ text) (x :: y :: z :: out)

/-- The text of bytes, with no bit and no padding to spare. -/
def encode : List UInt8 → List Char
  | [] => []
  | [x] => ((group x 0 0).take 2).map digit ++ ['=', '=']
  | [x, y] => ((group x y 0).take 3).map digit ++ ['=']
  | x :: y :: z :: rest => (group x y z).map digit ++ encode rest

theorem spells_encode (bytes : List UInt8) : Spells (encode bytes) bytes := by
  fun_induction encode bytes with
  | case1 => exact .nil
  | case2 x => exact .one x 0
  | case3 x y => exact .two x y 0
  | case4 x y z rest ih => exact .more x y z ih

theorem value?_digit : ∀ {bits : Nat}, bits < 64 → value? (digit bits) = some bits := by
  decide +kernel

theorem value?_padding : value? '=' = none := by
  decide

theorem toNat_lt_of_value? {bits : Nat} (known : value? c = some bits) : c.toNat < 128 := by
  have below {last : Char} (small : last.toNat < 128) (bound : c ≤ last) : c.toNat < 128 :=
    Nat.lt_of_le_of_lt (UInt32.le_iff_toNat_le.mp bound) small
  unfold value? at known
  simp only [Bool.and_eq_true, decide_eq_true_iff, beq_iff_eq] at known
  split_ifs at known with upper lower numeral plus slash
  · exact below (by decide) upper.2
  · exact below (by decide) lower.2
  · exact below (by decide) numeral.2
  · exact plus ▸ by decide
  · exact slash ▸ by decide

theorem eq_digit_of_value? {bits : Nat} (known : value? c = some bits) :
    bits < 64 ∧ c = digit bits := by
  have table : ∀ code < 128, ∀ bits ∈ value? (Char.ofNat code),
      bits < 64 ∧ Char.ofNat code = digit bits := by decide +kernel
  have own := table c.toNat (toNat_lt_of_value? known)
  rw [Char.ofNat_toNat] at own
  exact own bits known

theorem filterMap_value?_digits (small : ∀ bits ∈ values, bits < 64) :
    (values.map digit).filterMap value? = values := by
  induction values with
  | nil => rfl
  | cons bits rest ih =>
    obtain ⟨own, others⟩ := List.forall_mem_cons.mp small
    rw [List.map_cons, List.filterMap_cons_some (value?_digit own), ih others]

theorem exists_digits (known : ∀ c ∈ text, (value? c).isSome = true) :
    ∃ values : List Nat, (∀ bits ∈ values, bits < 64) ∧ text = values.map digit := by
  induction text with
  | nil => exact ⟨[], nofun, rfl⟩
  | cons c rest ih =>
    obtain ⟨own, others⟩ := List.forall_mem_cons.mp known
    obtain ⟨bits, value⟩ := Option.isSome_iff_exists.mp own
    obtain ⟨small, rfl⟩ := eq_digit_of_value? value
    obtain ⟨values, each, rfl⟩ := ih others
    exact ⟨bits :: values, List.forall_mem_cons.mpr ⟨small, each⟩, rfl⟩

/-- Characters of the alphabet with padding behind them are decoded if there is as much padding as
they need. -/
theorem decode?_digits (small : ∀ bits ∈ values, bits < 64) (padding : Nat) :
    decode? (values.map digit ++ List.replicate padding '=') =
      if padded values.length padding then some (bytes values) else none := by
  have data : ∀ c ∈ values.map digit, (value? c).isSome = true := by
    intro c member
    obtain ⟨bits, among, rfl⟩ := List.mem_map.mp member
    rw [value?_digit (small bits among)]
    rfl
  have stop : (List.replicate padding '=').takeWhile (fun c => (value? c).isSome) = [] ∧
      (List.replicate padding '=').dropWhile (fun c => (value? c).isSome) =
        List.replicate padding '=' := by
    cases padding with
    | zero => exact ⟨rfl, rfl⟩
    | succ more => simp [List.replicate_succ, value?_padding]
  rw [decode?, List.span_eq_takeWhile_dropWhile, List.takeWhile_append_of_pos data,
    List.dropWhile_append_of_pos data, stop.1, stop.2]
  simp [filterMap_value?_digits small]

/-- Behind the characters of the alphabet a text that is decoded has padding only. -/
theorem exists_padding (decoded : decode? text = some out) :
    ∃ padding, text.dropWhile (fun c => (value? c).isSome) = List.replicate padding '=' := by
  rw [decode?, List.span_eq_takeWhile_dropWhile] at decoded
  dsimp only at decoded
  split at decoded
  · rename_i accepted
    rw [Bool.and_eq_true, List.all_eq_true] at accepted
    exact ⟨_, List.eq_replicate_of_mem fun c member => beq_iff_eq.mp (accepted.1 c member)⟩
  · cases decoded

theorem decode?_eq_some_iff_digits :
    decode? text = some out ↔
      ∃ values padding, (∀ bits ∈ values, bits < 64) ∧ padded values.length padding = true ∧
        text = values.map digit ++ List.replicate padding '=' ∧ bytes values = out := by
  constructor
  · intro decoded
    have split : text = text.takeWhile (fun c => (value? c).isSome) ++
        text.dropWhile (fun c => (value? c).isSome) := List.takeWhile_append_dropWhile.symm
    obtain ⟨values, small, data⟩ := exists_digits
      (List.all_eq_true.mp (List.all_takeWhile (p := fun c => (value? c).isSome) (l := text)))
    obtain ⟨padding, behind⟩ := exists_padding decoded
    rw [data, behind] at split
    rw [split, decode?_digits small] at decoded
    split at decoded
    · rename_i fits
      exact ⟨values, padding, small, fits, split, Option.some.inj decoded⟩
    · cases decoded
  · rintro ⟨values, padding, small, fits, rfl, rfl⟩
    rw [decode?_digits small, if_pos fits]

theorem ofNat_eq (byte : UInt8) {number : Nat} (same : number = byte.toNat) :
    UInt8.ofNat number = byte := by
  rw [same, UInt8.ofNat_toNat]

theorem toNat_ofNat {number : Nat} (small : number < 256) : (UInt8.ofNat number).toNat = number := by
  rw [UInt8.toNat_ofNat', Nat.mod_eq_of_lt small]

theorem lt_of_mem_group {x y z : UInt8} : ∀ bits ∈ group x y z, bits < 64 := by
  have first := x.toNat_lt
  have second := y.toNat_lt
  have third := z.toNat_lt
  simp only [group, List.forall_mem_cons]
  refine ⟨?_, ?_, ?_, ?_, nofun⟩ <;> omega

theorem bytes_group (x y z : UInt8) (values : List Nat) :
    bytes (group x y z ++ values) = x :: y :: z :: bytes values := by
  have first := x.toNat_lt
  have second := y.toNat_lt
  have third := z.toNat_lt
  simp only [group, List.cons_append, List.nil_append, bytes]
  rw [ofNat_eq x (by omega), ofNat_eq y (by omega), ofNat_eq z (by omega)]

theorem bytes_take_two (x next : UInt8) : bytes ((group x next 0).take 2) = [x] := by
  have first := x.toNat_lt
  have second := next.toNat_lt
  simp only [group, List.take_succ_cons, List.take_zero, bytes]
  rw [ofNat_eq x (by omega)]

theorem bytes_take_three (x y next : UInt8) : bytes ((group x y next).take 3) = [x, y] := by
  have first := x.toNat_lt
  have second := y.toNat_lt
  have third := next.toNat_lt
  simp only [group, List.take_succ_cons, List.take_zero, bytes]
  rw [ofNat_eq x (by omega), ofNat_eq y (by omega)]

theorem group_ofNat {a b c d : Nat} (first : a < 64) (second : b < 64) (third : c < 64)
    (fourth : d < 64) :
    group (.ofNat (4 * a + b / 16)) (.ofNat (16 * (b % 16) + c / 4)) (.ofNat (64 * (c % 4) + d)) =
      [a, b, c, d] := by
  rw [group, toNat_ofNat (by omega), toNat_ofNat (by omega), toNat_ofNat (by omega)]
  simp only [List.cons.injEq, and_true]
  omega

/-- Behind a single complete group any padding may stand. -/
theorem padded_four (padding : Nat) : padded 4 padding = true :=
  rfl

/-- A complete group in front does not change which padding may stand behind a text that has
some. -/
theorem padded_add_four {data : Nat} (filled : data ≠ 0) (padding : Nat) :
    padded (data + 4) padding = padded data padding := by
  rw [padded, padded, Nat.add_mod_right]
  split <;> simp [filled]

theorem spells_of_padded (small : ∀ bits ∈ values, bits < 64)
    (fits : padded values.length padding = true) :
    Spells (values.map digit ++ List.replicate padding '=') (bytes values) := by
  fun_induction bytes values with
  | case1 a b c d rest ih =>
    simp only [List.forall_mem_cons] at small
    obtain ⟨first, second, third, fourth, others⟩ := small
    have front := group_ofNat first second third fourth
    by_cases last : rest = []
    · subst last
      have spelled := Spells.three (.ofNat (4 * a + b / 16)) (.ofNat (16 * (b % 16) + c / 4))
        (.ofNat (64 * (c % 4) + d)) padding
      rwa [front] at spelled
    · have shorter : padded rest.length padding = true := by
        rw [← padded_add_four (mt List.length_eq_zero_iff.mp last)]
        exact fits
      have spelled := Spells.more (.ofNat (4 * a + b / 16)) (.ofNat (16 * (b % 16) + c / 4))
        (.ofNat (64 * (c % 4) + d)) (ih others shorter)
      rwa [front] at spelled
  | case2 a b c =>
    simp only [List.forall_mem_cons] at small
    obtain ⟨first, second, third, -⟩ := small
    obtain rfl : padding = 1 := by simpa [padded] using fits
    have spelled := Spells.two (.ofNat (4 * a + b / 16)) (.ofNat (16 * (b % 16) + c / 4))
      (.ofNat (64 * (c % 4) + 0))
    rwa [group_ofNat first second third (by decide)] at spelled
  | case3 a b =>
    simp only [List.forall_mem_cons] at small
    obtain ⟨first, second, -⟩ := small
    obtain rfl : padding = 2 := by simpa [padded] using fits
    have spelled := Spells.one (.ofNat (4 * a + b / 16)) (.ofNat (16 * (b % 16) + 0 / 4))
    have front := group_ofNat first second (show 0 < 64 by decide) (show 0 < 64 by decide)
    rw [show UInt8.ofNat (64 * (0 % 4) + 0) = 0 from rfl] at front
    rwa [front] at spelled
  | case4 values several three two =>
    match values with
    | [] =>
      obtain rfl : padding = 0 := by simpa [padded] using fits
      exact .nil
    | [a] => cases fits
    | [a, b] => exact absurd rfl (two a b)
    | [a, b, c] => exact absurd rfl (three a b c)
    | a :: b :: c :: d :: rest => exact absurd rfl (several a b c d rest)

/-- What is spelled is made of characters of the alphabet with enough padding behind them, and these
are decoded. -/
theorem Spells.exists_digits (spells : Spells text out) :
    ∃ values padding, (∀ bits ∈ values, bits < 64) ∧ padded values.length padding = true ∧
      text = values.map digit ++ List.replicate padding '=' ∧ bytes values = out := by
  induction spells with
  | nil => exact ⟨[], 0, nofun, rfl, rfl, rfl⟩
  | one x next =>
    exact ⟨_, 2, fun bits member => lt_of_mem_group bits (List.mem_of_mem_take member), rfl, rfl,
      bytes_take_two x next⟩
  | two x y next =>
    exact ⟨_, 1, fun bits member => lt_of_mem_group bits (List.mem_of_mem_take member), rfl, rfl,
      bytes_take_three x y next⟩
  | three x y z padding =>
    exact ⟨group x y z, padding, lt_of_mem_group, padded_four padding, rfl, bytes_group x y z []⟩
  | @more x y z text out others ih =>
    obtain ⟨values, padding, small, fits, rfl, rfl⟩ := ih
    refine ⟨group x y z ++ values, padding, ?_, ?_, ?_, bytes_group x y z values⟩
    · exact List.forall_mem_append.mpr ⟨lt_of_mem_group, small⟩
    · rw [List.length_append, Nat.add_comm]
      by_cases last : values = []
      · subst last
        exact padded_four padding
      · exact (padded_add_four (mt List.length_eq_zero_iff.mp last) padding).trans fits
    · rw [List.map_append, List.append_assoc]

/-- A text is decoded to bytes exactly if it spells them. -/
theorem decode?_eq_some_iff : decode? text = some out ↔ Spells text out := by
  rw [decode?_eq_some_iff_digits]
  constructor
  · rintro ⟨values, padding, small, fits, rfl, rfl⟩
    exact spells_of_padded small fits
  · exact Spells.exists_digits

theorem decode?_encode (bytes : List UInt8) : decode? (encode bytes) = some bytes :=
  decode?_eq_some_iff.mpr (spells_encode bytes)

/-- What spells bytes is ASCII throughout. -/
theorem Spells.toNat_lt (spells : Spells text out) : ∀ c ∈ text, c.toNat < 128 := by
  obtain ⟨values, padding, small, -, rfl, -⟩ := spells.exists_digits
  intro c member
  rcases List.mem_append.mp member with data | behind
  · obtain ⟨bits, among, rfl⟩ := List.mem_map.mp data
    exact toNat_lt_of_value? (value?_digit (small bits among))
  · rw [List.eq_of_mem_replicate behind]
    decide

end PinBudget.Base64
