import DocumentLink.Bytes
import Mathlib.Tactic.Ring

/-! What stands where in a byte string.  A change in place is seen at its own position, by whatever
is read there, and nowhere else; so changes that do not meet can be made in either order.  A wide
number is made of the two narrow ones that stand in its place. -/

namespace DocumentLink.Bytes

/-! ### Fields and slices -/

theorem length_take_drop {width pos : Nat} {b : Bytes} (h : pos + width ≤ b.length) :
    ((b.drop pos).take width).length = width := by
  rw [List.length_take, List.length_drop]
  omega

theorem field?_of_le {width pos : Nat} {b : Bytes} (h : pos + width ≤ b.length) :
    field? width pos b = some ((b.drop pos).take width) := by
  rw [field?]
  exact if_pos (length_take_drop h)

theorem field?_of_lt {width pos : Nat} {b : Bytes} (hWidth : 0 < width)
    (h : b.length < pos + width) : field? width pos b = none := by
  have hLength : ((b.drop pos).take width).length ≠ width := by
    rw [List.length_take, List.length_drop]
    omega
  rw [field?]
  exact if_neg hLength

theorem int32At?_of_le {b : Bytes} {pos : Nat} (h : pos + 4 ≤ b.length) :
    b.int32At? pos = some (toInt32 ((b.drop pos).take 4)) := by
  rw [int32At?, field?_of_le h, Option.map_some]

theorem int64At?_of_le {b : Bytes} {pos : Nat} (h : pos + 8 ≤ b.length) :
    b.int64At? pos = some (toInt64 ((b.drop pos).take 8)) := by
  rw [int64At?, field?_of_le h, Option.map_some]

theorem int32At?_of_lt {b : Bytes} {pos : Nat} (h : b.length < pos + 4) :
    b.int32At? pos = none := by
  rw [int32At?, field?_of_lt (by decide) h, Option.map_none]

theorem int64At?_of_lt {b : Bytes} {pos : Nat} (h : b.length < pos + 8) :
    b.int64At? pos = none := by
  rw [int64At?, field?_of_lt (by decide) h, Option.map_none]

theorem int32At?_eq_some_iff {b : Bytes} {pos : Nat} {n : Int32} :
    b.int32At? pos = some n ↔ pos + 4 ≤ b.length ∧ n = toInt32 ((b.drop pos).take 4) := by
  rcases Nat.lt_or_ge b.length (pos + 4) with hOutside | hInside
  · rw [int32At?_of_lt hOutside]
    exact ⟨nofun, fun h => absurd h.1 (Nat.not_le.mpr hOutside)⟩
  · rw [int32At?_of_le hInside, Option.some.injEq, eq_comm]
    exact (and_iff_right hInside).symm

theorem setInt32?_of_le {b : Bytes} {pos : Nat} (h : pos + 4 ≤ b.length) (n : Int32) :
    b.setInt32? pos n = some (b.patch pos (ofInt32 n)) :=
  if_pos h

theorem setInt32?_of_lt {b : Bytes} {pos : Nat} (h : b.length < pos + 4) (n : Int32) :
    b.setInt32? pos n = none :=
  if_neg (Nat.not_le.mpr h)

theorem length_of_setInt32? {b b' : Bytes} {pos : Nat} {n : Int32}
    (h : b.setInt32? pos n = some b') : b'.length = b.length := by
  rw [setInt32?] at h
  split at h <;> cases h
  next hFits => exact length_patch (by rwa [length_ofInt32])

/-- A field that is set in a part of a string changes that part only. -/
theorem setInt32?_append (before : Bytes) {part : Bytes} {k : Nat} (h : k + 4 ≤ part.length)
    (n : Int32) (rest : Bytes) :
    (before ++ (part ++ rest)).setInt32? (before.length + k) n =
      some (before ++ (part.patch k (ofInt32 n) ++ rest)) := by
  rw [setInt32?_of_le, patch_append before (by rwa [length_ofInt32])]
  rw [List.length_append, List.length_append]
  omega

theorem slice?_of_le {b : Bytes} {start stop : Nat} (hStart : start ≤ stop)
    (hStop : stop ≤ b.length) : b.slice? start stop = some ((b.take stop).drop start) :=
  if_pos ⟨hStart, hStop⟩

/-- What is read in a field is settled by the bytes that stand there. -/
theorem field?_congr {width pos : Nat} {b b' : Bytes}
    (h : ∀ i, pos ≤ i → i < pos + width → b'[i]? = b[i]?) :
    field? width pos b' = field? width pos b := by
  have hFound : (b'.drop pos).take width = (b.drop pos).take width := by
    apply List.ext_getElem?
    intro k
    rw [List.getElem?_take, List.getElem?_take]
    split
    next hk =>
      rw [List.getElem?_drop, List.getElem?_drop]
      exact h (pos + k) (by omega) (by omega)
    next => rfl
  rw [field?, field?, hFound]

/-! ### Filling up and cutting off -/

theorem length_resize (b : Bytes) (n : Nat) : (b.resize n).length = n := by
  rw [resize, List.length_append, List.length_take, List.length_replicate]
  omega

theorem take_resize {b : Bytes} {k n : Nat} (hk : k ≤ n) (hLength : k ≤ b.length) :
    (b.resize n).take k = b.take k := by
  rw [resize, List.take_append_of_le_length, List.take_take, Nat.min_eq_left hk]
  rw [List.length_take]
  omega

theorem resize_add (b : Bytes) (k : Nat) : b.resize (b.length + k) = b ++ List.replicate k 0 := by
  rw [resize, List.take_of_length_le (Nat.le_add_right _ _), Nat.add_sub_cancel_left]

/-! ### Changes in place -/

theorem patch_zero (b new : Bytes) : b.patch 0 new = new ++ b.drop new.length := by
  rw [patch, List.take_zero, List.nil_append, Nat.zero_add]

/-- A buffer of which all is written from some place on. -/
theorem patch_of_end {b new : Bytes} {pos : Nat} (h : b.length = pos + new.length) :
    b.patch pos new = b.take pos ++ new := by
  rw [patch, List.drop_eq_nil_of_le (Nat.le_of_eq h), List.append_nil]

/-- Nothing that was in a buffer before is left once its front has been written, its length set and
the rest written as well. -/
theorem patch_resize_patch (buffer front back : Bytes) :
    ((buffer.patch 0 front).resize (front.length + back.length)).patch front.length back =
      front ++ back := by
  rw [patch_of_end (length_resize _ _), take_resize (Nat.le_add_right _ _), patch_zero,
    List.take_left]
  rw [patch_zero, List.length_append]
  exact Nat.le_add_right _ _

section Patch

variable {b new : Bytes} {pos : Nat} (hFits : pos + new.length ≤ b.length)

include hFits

/-- Byte for byte: the new bytes from their position on, and the old ones before and behind them. -/
theorem getElem?_patch (i : Nat) : (b.patch pos new)[i]? =
    if i < pos then b[i]? else if i < pos + new.length then new[i - pos]? else b[i]? := by
  have hFront : (b.take pos).length = pos := List.length_take_of_le (by omega)
  rw [patch, List.append_assoc, List.getElem?_append, hFront]
  split
  next hBefore => rw [List.getElem?_take_of_lt hBefore]
  next hFrom =>
    rw [List.getElem?_append]
    by_cases hInside : i < pos + new.length
    · rw [if_pos hInside, if_pos (by omega)]
    · rw [if_neg hInside, if_neg (by omega), List.getElem?_drop]
      congr 1
      omega

theorem getElem?_patch_of_outside {i : Nat} (h : i < pos ∨ pos + new.length ≤ i) :
    (b.patch pos new)[i]? = b[i]? := by
  rw [getElem?_patch hFits]
  split
  · rfl
  · rw [if_neg (by omega)]

theorem take_drop_patch : ((b.patch pos new).drop pos).take new.length = new := by
  have hFront : (b.take pos).length = pos := List.length_take_of_le (by omega)
  rw [patch, List.append_assoc, List.drop_left' hFront, List.take_left]

theorem field?_patch : field? new.length pos (b.patch pos new) = some new := by
  rw [field?_of_le (by rw [length_patch hFits]; exact hFits), take_drop_patch hFits]

theorem field?_patch_of_apart {width pos' : Nat}
    (h : pos' + width ≤ pos ∨ pos + new.length ≤ pos') :
    field? width pos' (b.patch pos new) = field? width pos' b := by
  apply field?_congr
  intro i hFrom hTo
  exact getElem?_patch_of_outside hFits (by omega)

/-- Changes that do not meet can be made in either order. -/
theorem patch_comm {new' : Bytes} {pos' : Nat} (hFits' : pos' + new'.length ≤ b.length)
    (h : pos + new.length ≤ pos' ∨ pos' + new'.length ≤ pos) :
    (b.patch pos new).patch pos' new' = (b.patch pos' new').patch pos new := by
  apply List.ext_getElem?
  intro i
  rw [getElem?_patch (by rw [length_patch hFits]; exact hFits'), getElem?_patch hFits,
    getElem?_patch (by rw [length_patch hFits']; exact hFits), getElem?_patch hFits']
  split_ifs <;> first | rfl | omega

end Patch

/-! ### Numbers of several bytes -/

theorem ofLittleEndian_append (low high : Bytes) :
    ofLittleEndian (low ++ high) =
      ofLittleEndian low + capacity low.length * ofLittleEndian high := by
  induction low with
  | nil => simp [ofLittleEndian, capacity]
  | cons x rest ih =>
    rw [List.cons_append, ofLittleEndian, ih, ofLittleEndian, List.length_cons, capacity,
      Nat.mul_add, Nat.mul_assoc, Nat.add_assoc]

theorem toUInt32_toInt32 (b : Bytes) : (toInt32 b).toUInt32 = toUInt32 b :=
  UInt32.toUInt32_toInt32 _

theorem toNat_toUInt32 {b : Bytes} (h : b.length = 4) : (toUInt32 b).toNat = ofLittleEndian b := by
  have hBound := ofLittleEndian_lt b
  rw [h] at hBound
  exact UInt32.toNat_ofNat_of_lt' hBound

theorem toInt_toInt32 {b : Bytes} (h : b.length = 4) :
    (toInt32 b).toInt = (ofLittleEndian b : Int).bmod (2 ^ 32) := by
  show (toUInt32 b).toBitVec.toInt = _
  rw [BitVec.toInt_eq_toNat_bmod, ← toNat_toUInt32 h]
  rfl

theorem toInt_toInt64 {b : Bytes} (h : b.length = 8) :
    (toInt64 b).toInt = (ofLittleEndian b : Int).bmod (2 ^ 64) := by
  have hBound := ofLittleEndian_lt b
  rw [h] at hBound
  have hNat : (toUInt64 b).toNat = ofLittleEndian b := UInt64.toNat_ofNat_of_lt' hBound
  show (toUInt64 b).toBitVec.toInt = _
  rw [BitVec.toInt_eq_toNat_bmod, ← hNat]
  rfl

/-- The sign of a wide number is that of its upper half; its lower half has none. -/
theorem toInt_toInt64_append {low high : Bytes} (hLow : low.length = 4) (hHigh : high.length = 4) :
    (toInt64 (low ++ high)).toInt =
      2 ^ 32 * (toInt32 high).toInt + (toInt32 low).toUInt32.toNat := by
  have hLowBound := ofLittleEndian_lt low
  have hHighBound := ofLittleEndian_lt high
  have hCapacity : capacity 4 = 2 ^ 32 := rfl
  rw [hLow, hCapacity] at hLowBound
  rw [hHigh, hCapacity] at hHighBound
  have hUnsigned : (toInt32 low).toUInt32.toNat = ofLittleEndian low := by
    rw [toUInt32_toInt32, toNat_toUInt32 hLow]
  rw [toInt_toInt64 (by rw [List.length_append, hLow, hHigh]), toInt_toInt32 hHigh, hUnsigned,
    ofLittleEndian_append, hLow, hCapacity, Int.bmod_def, Int.bmod_def]
  omega

theorem int64At?_eq_halves {b : Bytes} {pos : Nat} (h : pos + 8 ≤ b.length) :
    ∃ n low high, b.int64At? pos = some n ∧ b.int32At? pos = some low ∧
      b.int32At? (pos + 4) = some high ∧
      n.toInt = 2 ^ 32 * high.toInt + low.toUInt32.toNat := by
  have hHalves : (b.drop pos).take 8 =
      (b.drop pos).take 4 ++ (b.drop (pos + 4)).take 4 := by
    rw [show 8 = 4 + 4 from rfl, List.take_add, List.drop_drop]
  refine ⟨_, _, _, int64At?_of_le h, int32At?_of_le (by omega), int32At?_of_le (by omega), ?_⟩
  rw [hHalves]
  exact toInt_toInt64_append (length_take_drop (by omega)) (length_take_drop (by omega))

end DocumentLink.Bytes
