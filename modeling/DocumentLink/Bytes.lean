/-! Byte strings and the little-endian fields inside them.  A field is read at a position and is
absent when any of its bytes lies outside the string; `patch` overwrites bytes in place and
changes nothing else.  The number written by `littleEndian` is read back by `ofLittleEndian`,
and every string of a given length is the writing of exactly one number. -/

namespace DocumentLink

abbrev Bytes := List UInt8

namespace Bytes

/-- The lowest `width` digits of `n` in base 256, least significant first. -/
def littleEndian : Nat → Nat → Bytes
  | 0, _ => []
  | width + 1, n => UInt8.ofNat n :: littleEndian width (n / 256)

/-- The number whose digits in base 256 are the given bytes, least significant first. -/
def ofLittleEndian : Bytes → Nat
  | [] => 0
  | b :: rest => b.toNat + 256 * ofLittleEndian rest

@[simp] theorem length_littleEndian (width n : Nat) : (littleEndian width n).length = width := by
  induction width generalizing n with
  | zero => rfl
  | succ width ih => simp [littleEndian, ih]

/-- How many numbers have at most `width` digits. -/
def capacity : Nat → Nat
  | 0 => 1
  | width + 1 => 256 * capacity width

/-- Digits above the lowest `width` are lost and no others. -/
theorem ofLittleEndian_littleEndian (width n : Nat) :
    ofLittleEndian (littleEndian width n) = n % capacity width := by
  induction width generalizing n with
  | zero => simp [littleEndian, ofLittleEndian, capacity, Nat.mod_one]
  | succ width ih =>
    have hByte : (UInt8.ofNat n).toNat = n % 256 := by simp
    rw [littleEndian, ofLittleEndian, ih, hByte, capacity, Nat.mod_mul]

theorem littleEndian_ofLittleEndian (b : Bytes) :
    littleEndian b.length (ofLittleEndian b) = b := by
  induction b with
  | nil => rfl
  | cons x rest ih =>
    have hLow : UInt8.ofNat (x.toNat + 256 * ofLittleEndian rest) = x := by
      apply UInt8.toNat_inj.mp
      have := x.toNat_lt
      simp
    have hHigh : (x.toNat + 256 * ofLittleEndian rest) / 256 = ofLittleEndian rest := by
      have := x.toNat_lt
      omega
    rw [List.length_cons, ofLittleEndian, littleEndian, hHigh, hLow, ih]

theorem ofLittleEndian_lt (b : Bytes) : ofLittleEndian b < capacity b.length := by
  induction b with
  | nil => simp [ofLittleEndian, capacity]
  | cons x rest ih =>
    have := x.toNat_lt
    rw [ofLittleEndian, List.length_cons, capacity]
    omega

/-! ### Words -/

def ofUInt32 (n : UInt32) : Bytes := littleEndian 4 n.toNat
def ofUInt64 (n : UInt64) : Bytes := littleEndian 8 n.toNat
def ofInt32 (n : Int32) : Bytes := ofUInt32 n.toUInt32
def ofInt64 (n : Int64) : Bytes := ofUInt64 n.toUInt64

/-- The word in the given bytes; meant for exactly four of them. -/
def toUInt32 (b : Bytes) : UInt32 := UInt32.ofNat (ofLittleEndian b)

/-- The word in the given bytes; meant for exactly eight of them. -/
def toUInt64 (b : Bytes) : UInt64 := UInt64.ofNat (ofLittleEndian b)

/-- Two's complement reading of `toUInt32`. -/
def toInt32 (b : Bytes) : Int32 := (toUInt32 b).toInt32

/-- Two's complement reading of `toUInt64`. -/
def toInt64 (b : Bytes) : Int64 := (toUInt64 b).toInt64

@[simp] theorem length_ofUInt32 (n : UInt32) : (ofUInt32 n).length = 4 := length_littleEndian _ _
@[simp] theorem length_ofUInt64 (n : UInt64) : (ofUInt64 n).length = 8 := length_littleEndian _ _
@[simp] theorem length_ofInt32 (n : Int32) : (ofInt32 n).length = 4 := length_littleEndian _ _
@[simp] theorem length_ofInt64 (n : Int64) : (ofInt64 n).length = 8 := length_littleEndian _ _

@[simp] theorem toUInt32_ofUInt32 (n : UInt32) : toUInt32 (ofUInt32 n) = n := by
  apply UInt32.toNat_inj.mp
  have := n.toNat_lt
  simp [toUInt32, ofUInt32, ofLittleEndian_littleEndian, capacity]

@[simp] theorem toUInt64_ofUInt64 (n : UInt64) : toUInt64 (ofUInt64 n) = n := by
  apply UInt64.toNat_inj.mp
  have := n.toNat_lt
  simp [toUInt64, ofUInt64, ofLittleEndian_littleEndian, capacity]

@[simp] theorem toInt32_ofInt32 (n : Int32) : toInt32 (ofInt32 n) = n := by
  simp [toInt32, ofInt32]

@[simp] theorem toInt64_ofInt64 (n : Int64) : toInt64 (ofInt64 n) = n := by
  simp [toInt64, ofInt64]

theorem ofUInt32_toUInt32 {b : Bytes} (h : b.length = 4) : ofUInt32 (toUInt32 b) = b := by
  have hLt := ofLittleEndian_lt b
  simp only [h, capacity] at hLt
  have hNat : (toUInt32 b).toNat = ofLittleEndian b := by
    simp only [toUInt32, UInt32.toNat_ofNat']
    omega
  rw [ofUInt32, hNat, ← h, littleEndian_ofLittleEndian]

theorem ofUInt64_toUInt64 {b : Bytes} (h : b.length = 8) : ofUInt64 (toUInt64 b) = b := by
  have hLt := ofLittleEndian_lt b
  simp only [h, capacity] at hLt
  have hNat : (toUInt64 b).toNat = ofLittleEndian b := by
    simp only [toUInt64, UInt64.toNat_ofNat']
    omega
  rw [ofUInt64, hNat, ← h, littleEndian_ofLittleEndian]

theorem ofInt32_toInt32 {b : Bytes} (h : b.length = 4) : ofInt32 (toInt32 b) = b := by
  simpa [ofInt32, toInt32] using ofUInt32_toUInt32 h

theorem ofInt64_toInt64 {b : Bytes} (h : b.length = 8) : ofInt64 (toInt64 b) = b := by
  simpa [ofInt64, toInt64] using ofUInt64_toUInt64 h

/-! ### Fields at a position -/

/-- The `width` bytes from `pos` on, if the string reaches that far. -/
def field? (width pos : Nat) (b : Bytes) : Option Bytes :=
  let found := (b.drop pos).take width
  if found.length = width then some found else none

def int32At? (b : Bytes) (pos : Nat) : Option Int32 := (field? 4 pos b).map toInt32
def int64At? (b : Bytes) (pos : Nat) : Option Int64 := (field? 8 pos b).map toInt64

/-- Overwrites the bytes from `pos` on by `new`. -/
def patch (b : Bytes) (pos : Nat) (new : Bytes) : Bytes :=
  b.take pos ++ new ++ b.drop (pos + new.length)

/-- Overwrites the four bytes from `pos` on, if the string reaches that far. -/
def setInt32? (b : Bytes) (pos : Nat) (n : Int32) : Option Bytes :=
  if pos + 4 ≤ b.length then some (b.patch pos (ofInt32 n)) else none

/-- The bytes from `start` up to `stop`, if the string reaches that far. -/
def slice? (b : Bytes) (start stop : Nat) : Option Bytes :=
  if start ≤ stop ∧ stop ≤ b.length then some ((b.take stop).drop start) else none

/-- The string cut off after `n` bytes, or filled up to them with zeros. -/
def resize (b : Bytes) (n : Nat) : Bytes := b.take n ++ List.replicate (n - b.length) 0

theorem length_patch {b : Bytes} {pos : Nat} {new : Bytes} (h : pos + new.length ≤ b.length) :
    (b.patch pos new).length = b.length := by
  simp [patch]
  omega

/-- What stands before and behind a part of a string stays as it is when that part is changed. -/
theorem patch_append (before : Bytes) {message new : Bytes} {k : Nat}
    (h : k + new.length ≤ message.length) (rest : Bytes) :
    (before ++ (message ++ rest)).patch (before.length + k) new =
      before ++ (message.patch k new ++ rest) := by
  unfold patch
  rw [List.take_length_add_append, Nat.add_assoc, List.drop_length_add_append,
    List.take_append_of_le_length (by omega), List.drop_append_of_le_length h]
  simp only [List.append_assoc]

end Bytes

end DocumentLink
