import DocumentLink.Message.Editing
import DocumentLink.Proofs.Bytes

/-! Editing by 64-bit positions.  It makes no difference what becomes of a sum that is too large: a
field that ends there lies outside of every buffer, and work on it breaks off before a byte is
changed.  So the work comes to the same as with positions that know no bound, and a field that is
set is seen where it is set and nowhere else. -/

namespace DocumentLink.Editing

variable {b : Bytes} {overflow : Overflow}

/-! ### Single steps -/

section Steps

variable {α β : Type}

@[simp] theorem on_pure (a : α) (b : Bytes) : (pure a : Editing α).on b = (some a, b) := rfl

@[simp] theorem on_failure (b : Bytes) : (failure : Editing α).on b = (none, b) := rfl

@[simp] theorem on_get (b : Bytes) : (get : Editing Bytes).on b = (some b, b) := rfl

@[simp] theorem on_modify (f : Bytes → Bytes) (b : Bytes) :
    (modify f : Editing Unit).on b = (some (), f b) := rfl

@[simp] theorem on_getM (o : Option α) (b : Bytes) : (o.getM : Editing α).on b = (o, b) := by
  cases o <;> rfl

theorem on_bind (work : Editing α) (next : α → Editing β) (b : Bytes) :
    (work >>= next).on b = match work.on b with
      | (some a, b') => (next a).on b'
      | (none, b') => (none, b') := by
  unfold on
  simp only [OptionT.run_bind, Option.elimM, StateT.run_bind]
  rcases StateT.run (OptionT.run work) b with ⟨_ | a, b'⟩ <;> rfl

theorem on_bind_of_some {work : Editing α} {a : α} {b' : Bytes} (h : work.on b = (some a, b'))
    (next : α → Editing β) : (work >>= next).on b = (next a).on b' := by
  rw [on_bind, h]

theorem on_bind_of_none {work : Editing α} {b' : Bytes} (h : work.on b = (none, b'))
    (next : α → Editing β) : (work >>= next).on b = (none, b') := by
  rw [on_bind, h]

theorem on_map (f : α → β) (work : Editing α) (b : Bytes) :
    (f <$> work).on b = ((work.on b).1.map f, (work.on b).2) := by
  rw [map_eq_pure_bind, on_bind]
  rcases work.on b with ⟨_ | a, b'⟩ <;> rfl

end Steps

theorem on_sum_of_lt {x y : UInt64} (h : x.toNat + y.toNat < UInt64.size) :
    (sum overflow x y).on b = (some (x + y), b) := by
  cases overflow with
  | wraps => rfl
  | traps => rw [sum, if_pos h, on_pure]

theorem toNat_add_of_lt {x y : UInt64} (h : x.toNat + y.toNat < UInt64.size) :
    (x + y).toNat = x.toNat + y.toNat := by
  rw [UInt64.toNat_add]
  exact Nat.mod_eq_of_lt h

/-- A sum that is too large is none, or is smaller than what it was made of. -/
theorem on_sum_of_ge (overflow : Overflow) {x y : UInt64} (h : UInt64.size ≤ x.toNat + y.toNat)
    (b : Bytes) : (sum overflow x y).on b = (none, b) ∨
      ∃ s, (sum overflow x y).on b = (some s, b) ∧ s.toNat < x.toNat := by
  cases overflow with
  | wraps =>
    refine .inr ⟨x + y, rfl, ?_⟩
    have := x.toNat_lt
    have := y.toNat_lt
    rw [UInt64.toNat_add]
    simp only [UInt64.size] at h
    omega
  | traps => exact .inl (by rw [sum, if_neg (Nat.not_lt.mpr h), on_failure])

/-- A field is there exactly if it lies in the buffer. -/
theorem on_field (overflow : Overflow) (hSize : b.length < UInt64.size) (pos width : UInt64) :
    (field overflow pos width).on b =
      (if pos.toNat + width.toNat ≤ b.length then some ((b.drop pos.toNat).take width.toNat)
        else none, b) := by
  by_cases hSum : pos.toNat + width.toNat < UInt64.size
  · rw [field, on_bind_of_some (on_sum_of_lt hSum), on_bind_of_some (on_get b), on_getM,
      toNat_add_of_lt hSum, Bytes.slice?, List.drop_take, Nat.add_sub_cancel_left]
    simp only [Nat.le_add_right, true_and]
  · rw [if_neg (by omega)]
    rcases on_sum_of_ge overflow (Nat.not_lt.mp hSum) b with hNone | ⟨stop, hSome, hBefore⟩
    · rw [field, on_bind_of_none hNone]
    · rw [field, on_bind_of_some hSome, on_bind_of_some (on_get b), on_getM, Bytes.slice?,
        if_neg (by omega)]

theorem on_copy (hSize : b.length < UInt64.size) (pos : UInt64) {width : UInt64}
    (hWidth : 0 < width.toNat) :
    (copy overflow pos width).on b = (Bytes.field? width.toNat pos.toNat b, b) := by
  have hField := on_field overflow hSize pos width
  by_cases hFits : pos.toNat + width.toNat ≤ b.length
  · rw [if_pos hFits] at hField
    rw [copy, on_bind_of_some hField, if_pos (Bytes.length_take_drop hFits), on_pure,
      Bytes.field?_of_le hFits]
  · rw [if_neg hFits] at hField
    rw [copy, on_bind_of_none hField, Bytes.field?_of_lt hWidth (Nat.not_le.mp hFits)]

/-! ### Work on fields, and the same without a bound on positions -/

theorem on_getInt32 (hSize : b.length < UInt64.size) (pos : UInt64) :
    (getInt32 overflow pos).on b = (b.int32At? pos.toNat, b) := by
  rw [getInt32, on_map, on_copy hSize pos (by decide)]
  rfl

theorem on_getInt64 (hSize : b.length < UInt64.size) (pos : UInt64) :
    (getInt64 overflow pos).on b = (b.int64At? pos.toNat, b) := by
  rw [getInt64, on_map, on_copy hSize pos (by decide)]
  rfl

/-- Where a field cannot be set the buffer stays as it is. -/
theorem on_setInt32 (hSize : b.length < UInt64.size) (pos : UInt64) (n : Int32) :
    (setInt32 overflow pos n).on b =
      ((b.setInt32? pos.toNat n).map fun _ => (), (b.setInt32? pos.toNat n).getD b) := by
  have hField := on_field overflow hSize pos 4
  have hFour : (4 : UInt64).toNat = 4 := rfl
  rw [hFour] at hField
  by_cases hFits : pos.toNat + 4 ≤ b.length
  · rw [if_pos hFits] at hField
    have hLength := (Bytes.length_take_drop hFits).trans (Bytes.length_ofInt32 n).symm
    rw [setInt32, on_bind_of_some hField, if_pos hLength, on_modify, Bytes.setInt32?_of_le hFits]
    rfl
  · rw [if_neg hFits] at hField
    rw [setInt32, on_bind_of_none hField, Bytes.setInt32?_of_lt (Nat.not_le.mp hFits)]
    rfl

/-- The opcode of a header that has been filled up with zeros stands inside of that header. -/
theorem setInt32?_zeros (b : Bytes) (opcode : Int32) :
    (b ++ List.replicate Message.headerSize 0).setInt32? (b.length + Message.opcodeAt) opcode =
      some (Buffer.addHeader b opcode) := by
  have hFits : Message.opcodeAt + 4 ≤ (List.replicate Message.headerSize (0 : UInt8)).length := by
    rw [List.length_replicate]
    decide
  have hHeader : Bytes.patch (List.replicate Message.headerSize 0) Message.opcodeAt
      (Bytes.ofInt32 opcode) = Message.blankHeader opcode := by
    rw [Bytes.patch_of_end (by rw [Bytes.length_ofInt32, List.length_replicate]; rfl)]
    rfl
  have hSet := Bytes.setInt32?_append b hFits opcode []
  rw [List.append_nil, List.append_nil, hHeader] at hSet
  exact hSet

theorem on_addHeader (hSize : b.length + Message.headerSize < UInt64.size) (opcode : Int32) :
    (addHeader overflow opcode).on b = (some (), Buffer.addHeader b opcode) := by
  have hStart : (UInt64.ofNat b.length).toNat = b.length := UInt64.toNat_ofNat_of_lt' (by omega)
  have hEnd : (UInt64.ofNat b.length).toNat + (UInt64.ofNat Message.headerSize).toNat <
      UInt64.size := by
    rw [hStart]
    exact hSize
  have hPos : (UInt64.ofNat b.length).toNat + (UInt64.ofNat Message.opcodeAt).toNat <
      UInt64.size := Nat.lt_of_le_of_lt (Nat.add_le_add_left (by decide) _) hEnd
  have hGrown : b.resize (UInt64.ofNat b.length + UInt64.ofNat Message.headerSize).toNat =
      b ++ List.replicate Message.headerSize 0 := by
    rw [toNat_add_of_lt hEnd, hStart]
    exact Bytes.resize_add b _
  have hOpcode : (UInt64.ofNat b.length + UInt64.ofNat Message.opcodeAt).toNat =
      b.length + Message.opcodeAt := by
    rw [toNat_add_of_lt hPos, hStart]
    rfl
  rw [addHeader, on_bind_of_some (on_get b), on_bind_of_some (on_sum_of_lt hEnd),
    on_bind_of_some (on_modify _ b), hGrown, on_bind_of_some (on_sum_of_lt hPos), on_setInt32,
    hOpcode, setInt32?_zeros]
  · rfl
  · rw [List.length_append, List.length_replicate]
    exact hSize

theorem on_addInt32 (n : Int32) (b : Bytes) :
    (addInt32 n).on b = (some (), Buffer.addInt32 b n) := rfl

theorem on_addTerminated (s : String) (b : Bytes) :
    (addTerminated s).on b = (some (), Buffer.addTerminated b s) := by
  rw [addTerminated, on_bind_of_some (on_modify _ _), on_modify, List.append_assoc]
  rfl

/-! ### What is seen where -/

/-- Setting the field at `p` to `n` made `b'` of `b`: the number is read there, and nothing else is
changed. -/
structure SetTo (overflow : Overflow) (b : Bytes) (p : UInt64) (n : Int32) (b' : Bytes) : Prop where
  length : b'.length = b.length
  here : (getInt32 overflow p).on b' = (some n, b')
  elsewhere : ∀ i, i < p.toNat ∨ p.toNat + 4 ≤ i → b'[i]? = b[i]?
  int32 : ∀ q : UInt64, q.toNat + 4 ≤ p.toNat ∨ p.toNat + 4 ≤ q.toNat →
    ((getInt32 overflow q).on b').1 = ((getInt32 overflow q).on b).1
  int64 : ∀ q : UInt64, q.toNat + 8 ≤ p.toNat ∨ p.toNat + 4 ≤ q.toNat →
    ((getInt64 overflow q).on b').1 = ((getInt64 overflow q).on b).1

theorem setTo_patch (overflow : Overflow) (hSize : b.length < UInt64.size) {p : UInt64}
    (hFits : p.toNat + 4 ≤ b.length) (n : Int32) :
    SetTo overflow b p n (b.patch p.toNat (Bytes.ofInt32 n)) := by
  have hNew : p.toNat + (Bytes.ofInt32 n).length ≤ b.length := by
    rw [Bytes.length_ofInt32]
    exact hFits
  have hLength := Bytes.length_patch hNew
  have hSize' : (b.patch p.toNat (Bytes.ofInt32 n)).length < UInt64.size := by
    rw [hLength]
    exact hSize
  refine ⟨hLength, ?here, ?elsewhere, ?int32, ?int64⟩
  case here =>
    have hField := Bytes.field?_patch hNew
    rw [Bytes.length_ofInt32] at hField
    rw [on_getInt32 hSize', Bytes.int32At?, hField, Option.map_some, Bytes.toInt32_ofInt32]
  case elsewhere =>
    intro i hOutside
    exact Bytes.getElem?_patch_of_outside hNew (by rw [Bytes.length_ofInt32]; exact hOutside)
  case int32 =>
    intro q hApart
    rw [on_getInt32 hSize', on_getInt32 hSize, Bytes.int32At?, Bytes.int32At?,
      Bytes.field?_patch_of_apart hNew (by rw [Bytes.length_ofInt32]; exact hApart)]
  case int64 =>
    intro q hApart
    rw [on_getInt64 hSize', on_getInt64 hSize, Bytes.int64At?, Bytes.int64At?,
      Bytes.field?_patch_of_apart hNew (by rw [Bytes.length_ofInt32]; exact hApart)]

theorem on_setInt32_of_le (hSize : b.length < UInt64.size) {p : UInt64}
    (hFits : p.toNat + 4 ≤ b.length) (n : Int32) :
    (setInt32 overflow p n).on b = (some (), b.patch p.toNat (Bytes.ofInt32 n)) := by
  rw [on_setInt32 hSize, Bytes.setInt32?_of_le hFits]
  rfl

theorem on_setInt32_of_lt (hSize : b.length < UInt64.size) {p : UInt64}
    (h : b.length < p.toNat + 4) (n : Int32) : (setInt32 overflow p n).on b = (none, b) := by
  rw [on_setInt32 hSize, Bytes.setInt32?_of_lt h]
  rfl

theorem on_setInt32_twice (hSize : b.length < UInt64.size) {p q : UInt64}
    (hp : p.toNat + 4 ≤ b.length) (hq : q.toNat + 4 ≤ b.length) (n m : Int32) :
    (do setInt32 overflow p n; setInt32 overflow q m).on b =
      (some (), (b.patch p.toNat (Bytes.ofInt32 n)).patch q.toNat (Bytes.ofInt32 m)) := by
  have hLength := (setTo_patch overflow hSize hp n).length
  rw [on_bind_of_some (on_setInt32_of_le hSize hp n)]
  apply on_setInt32_of_le
  · rw [hLength]
    exact hSize
  · rw [hLength]
    exact hq

theorem patch_ofInt32_comm {p q : Nat} (hApart : p + 4 ≤ q ∨ q + 4 ≤ p) (hp : p + 4 ≤ b.length)
    (hq : q + 4 ≤ b.length) (n m : Int32) :
    (b.patch q (Bytes.ofInt32 m)).patch p (Bytes.ofInt32 n) =
      (b.patch p (Bytes.ofInt32 n)).patch q (Bytes.ofInt32 m) := by
  apply Bytes.patch_comm
  all_goals simp only [Bytes.length_ofInt32]
  · exact hq
  · exact hp
  · exact hApart.symm

/-- Two changes come to nothing if the place of either is outside, whichever is made first. -/
theorem on_setInt32_twice_outside (hSize : b.length < UInt64.size) {p q : UInt64}
    (h : b.length < p.toNat + 4 ∨ b.length < q.toNat + 4) (n m : Int32) :
    ((do setInt32 overflow p n; setInt32 overflow q m).on b).1 = none := by
  by_cases hFits : p.toNat + 4 ≤ b.length
  · have hLength := (setTo_patch overflow hSize hFits n).length
    rw [on_bind_of_some (on_setInt32_of_le hSize hFits n), on_setInt32, Bytes.setInt32?_of_lt]
    · rfl
    · omega
    · rw [hLength]
      exact hSize
  · rw [on_bind_of_none (on_setInt32_of_lt hSize (Nat.not_le.mp hFits) n)]

/-- A number in two fields of four bytes. -/
theorem on_getInt64_eq_halves (overflow : Overflow) (hSize : b.length < UInt64.size) {p : UInt64}
    (hFits : p.toNat + 8 ≤ b.length) : ∃ n low high,
      (getInt64 overflow p).on b = (some n, b) ∧ (getInt32 overflow p).on b = (some low, b) ∧
      (getInt32 overflow (p + 4)).on b = (some high, b) ∧
      n.toInt = 2 ^ 32 * high.toInt + low.toUInt32.toNat := by
  obtain ⟨n, low, high, hWide, hLow, hHigh, hValue⟩ := Bytes.int64At?_eq_halves hFits
  have hFour : (4 : UInt64).toNat = 4 := rfl
  have hNext : (p + 4).toNat = p.toNat + 4 := toNat_add_of_lt (by rw [hFour]; omega)
  refine ⟨n, low, high, ?_, ?_, ?_, hValue⟩
  · rw [on_getInt64 hSize, hWide]
  · rw [on_getInt32 hSize, hLow]
  · rw [on_getInt32 hSize, hNext, hHigh]

/-- A number that is added at the end is read where the end was. -/
theorem on_getInt32_addInt32 (hSize : b.length + 4 < UInt64.size) (n : Int32) :
    (getInt32 overflow (UInt64.ofNat b.length)).on (Buffer.addInt32 b n) =
      (some n, Buffer.addInt32 b n) := by
  have hStart : (UInt64.ofNat b.length).toNat = b.length := UInt64.toNat_ofNat_of_lt' (by omega)
  have hLength : (Buffer.addInt32 b n).length = b.length + 4 := by
    rw [Buffer.addInt32, List.length_append, Bytes.length_ofInt32]
  rw [on_getInt32 (by rw [hLength]; exact hSize), hStart,
    Bytes.int32At?_of_le (Nat.le_of_eq hLength.symm), Buffer.addInt32, List.drop_left,
    List.take_of_length_le (Nat.le_of_eq (Bytes.length_ofInt32 n)), Bytes.toInt32_ofInt32]

/-- What becomes of a buffer by work on its fields and at its end. -/
structure Orderly (overflow : Overflow) (b : Bytes) : Prop where
  set : ∀ p n, p.toNat + 4 ≤ b.length → ∃ b', b.setInt32? p.toNat n = some b' ∧
    (setInt32 overflow p n).on b = (some (), b') ∧ SetTo overflow b p n b'
  /-- A field that reaches past the end cannot be set, and nothing is changed by trying to. -/
  set_outside : ∀ p n, b.length < p.toNat + 4 →
    b.setInt32? p.toNat n = none ∧ (setInt32 overflow p n).on b = (none, b)
  /-- Fields that do not overlap can be set in either order. -/
  set_comm : ∀ p q n m, p.toNat + 4 ≤ q.toNat ∨ q.toNat + 4 ≤ p.toNat →
    p.toNat + 4 ≤ b.length → q.toNat + 4 ≤ b.length → ∃ b',
      (do setInt32 overflow p n; setInt32 overflow q m).on b = (some (), b') ∧
      (do setInt32 overflow q m; setInt32 overflow p n).on b = (some (), b')
  set_twice_outside : ∀ p q n m, b.length < p.toNat + 4 ∨ b.length < q.toNat + 4 →
    ((do setInt32 overflow p n; setInt32 overflow q m).on b).1 = none
  get : ∀ p, p.toNat + 4 ≤ b.length → ∃ n, b.int32At? p.toNat = some n ∧
    (getInt32 overflow p).on b = (some n, b)
  get_outside : ∀ p, b.length < p.toNat + 4 →
    b.int32At? p.toNat = none ∧ (getInt32 overflow p).on b = (none, b)
  /-- Eight bytes are the number that their upper half makes with its sign and their lower half
  without one. -/
  wide : ∀ p, p.toNat + 8 ≤ b.length → ∃ n low high, b.int64At? p.toNat = some n ∧
    (getInt64 overflow p).on b = (some n, b) ∧ (getInt32 overflow p).on b = (some low, b) ∧
    (getInt32 overflow (p + 4)).on b = (some high, b) ∧
    n.toInt = 2 ^ 32 * high.toInt + low.toUInt32.toNat
  wide_outside : ∀ p, b.length < p.toNat + 8 →
    b.int64At? p.toNat = none ∧ (getInt64 overflow p).on b = (none, b)
  /-- What is added comes behind all that is there. -/
  header : ∀ opcode, (addHeader overflow opcode).on b = (some (), Buffer.addHeader b opcode) ∧
    b <+: Buffer.addHeader b opcode
  number : ∀ n, (addInt32 n).on b = (some (), Buffer.addInt32 b n) ∧ b <+: Buffer.addInt32 b n ∧
    (getInt32 overflow (UInt64.ofNat b.length)).on (Buffer.addInt32 b n) =
      (some n, Buffer.addInt32 b n)
  text : ∀ s, (addTerminated s).on b = (some (), Buffer.addTerminated b s) ∧
    b <+: Buffer.addTerminated b s

/-- A buffer has fewer than `2 ^ 63` bytes, since that is as much as one allocation can hold.  So
a sum that is too large for a word lies behind every buffer; and whatever becomes of it, a field is
set and read exactly where it lies in the buffer, and what is done to it does not touch what stands
elsewhere. -/
theorem orderly_of_length_lt (overflow : Overflow) {b : Bytes} (hSize : b.length < 2 ^ 63) :
    Orderly overflow b := by
  have hWord : 2 ^ 63 + 16 ≤ UInt64.size := by decide
  have hShort : b.length < UInt64.size := by omega
  constructor
  case set =>
    intro p n hFits
    exact ⟨_, Bytes.setInt32?_of_le hFits n, on_setInt32_of_le hShort hFits n,
      setTo_patch overflow hShort hFits n⟩
  case set_outside =>
    intro p n hOutside
    exact ⟨Bytes.setInt32?_of_lt hOutside n, on_setInt32_of_lt hShort hOutside n⟩
  case set_comm =>
    intro p q n m hApart hp hq
    refine ⟨_, on_setInt32_twice hShort hp hq n m, ?_⟩
    rw [on_setInt32_twice hShort hq hp m n, patch_ofInt32_comm hApart hp hq]
  case set_twice_outside =>
    intro p q n m hOutside
    exact on_setInt32_twice_outside hShort hOutside n m
  case get =>
    intro p hFits
    have hThere := Bytes.int32At?_of_le hFits
    exact ⟨_, hThere, by rw [on_getInt32 hShort, hThere]⟩
  case get_outside =>
    intro p hOutside
    have hNone := Bytes.int32At?_of_lt hOutside
    exact ⟨hNone, by rw [on_getInt32 hShort, hNone]⟩
  case wide =>
    intro p hFits
    obtain ⟨n, low, high, hWide, hHalves⟩ := on_getInt64_eq_halves overflow hShort hFits
    have hThere := congrArg Prod.fst hWide
    rw [on_getInt64 hShort] at hThere
    exact ⟨n, low, high, hThere, hWide, hHalves⟩
  case wide_outside =>
    intro p hOutside
    have hNone := Bytes.int64At?_of_lt hOutside
    exact ⟨hNone, by rw [on_getInt64 hShort, hNone]⟩
  case header =>
    intro opcode
    have hRoom : b.length + Message.headerSize < UInt64.size := by
      rw [Message.headerSize]
      omega
    exact ⟨on_addHeader hRoom opcode, List.prefix_append _ _⟩
  case number =>
    intro n
    exact ⟨on_addInt32 n b, List.prefix_append _ _, on_getInt32_addInt32 (by omega) n⟩
  case text =>
    intro s
    exact ⟨on_addTerminated s b, List.prefix_append _ _⟩

/-- A negative number of eight bytes and its halves, and fields that end behind the buffer or behind
the last position. -/
theorem orderly_twelve_bytes :
    let b : Bytes := [0, 0, 0, 0, 254, 255, 255, 255, 255, 255, 255, 255]
    b.length < 2 ^ 63 ∧ Orderly .wraps b ∧ Orderly .traps b ∧
      (getInt64 .wraps 4).on b = (some (-2), b) ∧ (getInt32 .wraps 4).on b = (some (-2), b) ∧
      (getInt32 .wraps 8).on b = (some (-1), b) ∧ (setInt32 .wraps 9 7).on b = (none, b) ∧
      (setInt32 .wraps 18446744073709551614 7).on b = (none, b) ∧
      (setInt32 .traps 18446744073709551614 7).on b = (none, b) := by
  intro b
  have hSize : b.length < 2 ^ 63 := by decide
  have hWraps := orderly_of_length_lt .wraps hSize
  have hTraps := orderly_of_length_lt .traps hSize
  exact ⟨hSize, hWraps, hTraps, by decide, by decide, by decide,
    (hWraps.set_outside 9 7 (by decide)).2, (hWraps.set_outside _ 7 (by decide)).2,
    (hTraps.set_outside _ 7 (by decide)).2⟩

end DocumentLink.Editing
