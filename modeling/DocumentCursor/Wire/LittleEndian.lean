/-! # Little-endian integers

Messages hold their integers as bytes with the least significant first.

Main definitions:

* `digits` and `value` relate a natural number and its bytes;
* `int32`, `int64` write an integer and `takeInt32?`, `takeInt64?` read one from the front of bytes;
* `takeText?` reads bytes up to a NUL.
-/

namespace DocumentCursor.Wire.LittleEndian

/-! ## Natural numbers -/

/-- The given number of bytes of a natural number, the lowest first; its higher part is dropped. -/
def digits : Nat → Nat → List UInt8
  | 0, _ => []
  | width + 1, n => UInt8.ofNat (n % 256) :: digits width (n / 256)

/-- The natural number that bytes hold, the lowest first. -/
def value : List UInt8 → Nat
  | [] => 0
  | byte :: rest => byte.toNat + 256 * value rest

@[simp] theorem length_digits (width n : Nat) : (digits width n).length = width := by
  induction width generalizing n with
  | zero => rfl
  | succ width ih => simp [digits, ih]

/-- Bytes hold the number that they were written from, less its dropped part:
`value (digits width n) = n % 256 ^ width`. -/
theorem value_digits (width n : Nat) : value (digits width n) = n % Nat.pow 256 width := by
  induction width generalizing n with
  | zero => simp [digits, value, Nat.mod_one]
  | succ width ih =>
    have h : (UInt8.ofNat (n % 256)).toNat = n % 256 := by
      rw [UInt8.toNat_ofNat']
      omega
    rw [digits, value, ih, h, Nat.pow_eq, Nat.pow_eq, Nat.pow_succ, Nat.mul_comm (256 ^ width) 256,
      Nat.mod_mul]

/-- The bytes of the number that some bytes hold are those bytes:
`digits bytes.length (value bytes) = bytes`. -/
theorem digits_value (bytes : List UInt8) : digits bytes.length (value bytes) = bytes := by
  induction bytes with
  | nil => rfl
  | cons byte rest ih =>
    have hb : byte.toNat < 256 := byte.toNat_lt
    have hmod : (byte.toNat + 256 * value rest) % 256 = byte.toNat := by omega
    have hdiv : (byte.toNat + 256 * value rest) / 256 = value rest := by omega
    rw [List.length_cons, digits, value, hmod, hdiv, ih, UInt8.ofNat_toNat]

/-- Bytes hold less than their number allows: `value bytes < 256 ^ bytes.length`. -/
theorem value_lt (bytes : List UInt8) : value bytes < Nat.pow 256 bytes.length := by
  induction bytes with
  | nil => simp [value]
  | cons byte rest ih =>
    have hb : byte.toNat < 256 := byte.toNat_lt
    rw [value, List.length_cons, Nat.pow_eq, Nat.pow_succ, ← Nat.pow_eq]
    omega

/-! ## Integers -/

/-- The four bytes of an integer, which is taken modulo `2 ^ 32` if it is negative. -/
def int32 (n : Int32) : List UInt8 := digits 4 n.toUInt32.toNat

/-- The eight bytes of an integer, which is taken modulo `2 ^ 64` if it is negative. -/
def int64 (n : Int64) : List UInt8 := digits 8 n.toUInt64.toNat

@[simp] theorem length_int32 (n : Int32) : (int32 n).length = 4 := length_digits 4 _

@[simp] theorem length_int64 (n : Int64) : (int64 n).length = 8 := length_digits 8 _

/-- Takes an integer of four bytes from the front, if there are as many. -/
def takeInt32? (bytes : List UInt8) : Option (Int32 × List UInt8) :=
  if 4 ≤ bytes.length then
    some (Int32.ofNat (value (bytes.take 4)), bytes.drop 4)
  else none

/-- Takes an integer of eight bytes from the front, if there are as many. -/
def takeInt64? (bytes : List UInt8) : Option (Int64 × List UInt8) :=
  if 8 ≤ bytes.length then
    some (Int64.ofNat (value (bytes.take 8)), bytes.drop 8)
  else none

/-- Taking an integer gives the one whose bytes stand in front:
`takeInt32? (int32 n ++ rest) = some (n, rest)`. -/
@[simp] theorem takeInt32?_append (n : Int32) (rest : List UInt8) :
    takeInt32? (int32 n ++ rest) = some (n, rest) := by
  have hlt : n.toUInt32.toNat % Nat.pow 256 4 = n.toUInt32.toNat :=
    Nat.mod_eq_of_lt n.toUInt32.toNat_lt
  have htake : (int32 n ++ rest).take 4 = int32 n := by
    rw [List.take_append_of_le_length (by simp), List.take_of_length_le (by simp)]
  have hdrop : (int32 n ++ rest).drop 4 = rest := by
    rw [List.drop_append_of_le_length (by simp), List.drop_of_length_le (by simp), List.nil_append]
  have hof : Int32.ofNat n.toUInt32.toNat = n := by
    apply Int32.toBitVec_inj.1
    simp
  simp [takeInt32?, htake, hdrop]
  rw [int32, value_digits, hlt, hof]

/-- Taking an integer gives the one whose bytes stand in front:
`takeInt64? (int64 n ++ rest) = some (n, rest)`. -/
@[simp] theorem takeInt64?_append (n : Int64) (rest : List UInt8) :
    takeInt64? (int64 n ++ rest) = some (n, rest) := by
  have hlt : n.toUInt64.toNat % Nat.pow 256 8 = n.toUInt64.toNat :=
    Nat.mod_eq_of_lt n.toUInt64.toNat_lt
  have htake : (int64 n ++ rest).take 8 = int64 n := by
    rw [List.take_append_of_le_length (by simp), List.take_of_length_le (by simp)]
  have hdrop : (int64 n ++ rest).drop 8 = rest := by
    rw [List.drop_append_of_le_length (by simp), List.drop_of_length_le (by simp), List.nil_append]
  have hof : Int64.ofNat n.toUInt64.toNat = n := by
    apply Int64.toBitVec_inj.1
    simp
  simp [takeInt64?, htake, hdrop]
  rw [int64, value_digits, hlt, hof]

/-! ## Text -/

/-- Takes the bytes up to a NUL, which ends them, from the front, and drops the NUL. Without one
there is no text. -/
def takeText? (bytes : List UInt8) : Option (List UInt8 × List UInt8) :=
  match bytes.dropWhile (· ≠ 0) with
  | [] => none
  | _ :: rest => some (bytes.takeWhile (· ≠ 0), rest)

end DocumentCursor.Wire.LittleEndian
