import DocumentLink.Field
import DocumentLink.Proofs.Bytes

/-! The delimited forms, read and written.  Each reader takes exactly the form of its writer off the
front of a byte string.  Bytes that begin with their own number need no reader of their own: a
string of them is cut in one way only. -/

namespace DocumentLink

namespace Field

theorem split?_eq_some_iff {n : Nat} {b front rest : Bytes} :
    split? n b = some (front, rest) ↔ front.length = n ∧ b = front ++ rest := by
  unfold split?
  constructor
  · intro h
    dsimp only at h
    split at h
    next hFront =>
      cases h
      exact ⟨hFront, (List.take_append_drop n b).symm⟩
    next => cases h
  · rintro ⟨rfl, rfl⟩
    dsimp only
    rw [List.take_left, List.drop_left, if_pos rfl]

theorem length?_eq_some_iff {b rest : Bytes} {n : Int32} :
    length? b = some (n, rest) ↔ b = Bytes.ofInt32 n ++ rest := by
  unfold length?
  rw [Option.map_eq_some_iff]
  constructor
  · rintro ⟨⟨front, rest⟩, hSplit, hFront⟩
    cases hFront
    obtain ⟨hFour, rfl⟩ := split?_eq_some_iff.mp hSplit
    rw [Bytes.ofInt32_toInt32 hFour]
  · rintro rfl
    refine ⟨(Bytes.ofInt32 n, rest), ?_, ?_⟩
    · exact split?_eq_some_iff.mpr ⟨Bytes.length_ofInt32 n, rfl⟩
    · show (Bytes.toInt32 (Bytes.ofInt32 n), rest) = (n, rest)
      rw [Bytes.toInt32_ofInt32]

theorem utf8_eq_flatMap (s : String) : utf8 s = s.toList.flatMap String.utf8EncodeChar := by
  rw [utf8, String.toUTF8_eq_toByteArray, ← String.utf8Encode_toList, List.utf8Encode,
    List.data_toByteArray, List.toList_toArray]

/-- Of all characters only zero is written with a zero byte. -/
theorem zero_mem_utf8EncodeChar_iff {c : Char} :
    0 ∈ String.utf8EncodeChar c ↔ c = Char.ofNat 0 := by
  have hByte (n : Nat) : 0 = UInt8.ofNat n ↔ n % 256 = 0 := by
    rw [← UInt8.toNat_inj, UInt8.toNat_ofNat', eq_comm]
    rfl
  have hChar : c = Char.ofNat 0 ↔ c.val.toNat = 0 := by
    rw [← Char.val_inj, ← UInt32.toNat_inj]
    rfl
  rw [hChar]
  unfold String.utf8EncodeChar
  dsimp only
  split
  · rw [List.mem_singleton, hByte]
    omega
  · split
    · simp only [List.mem_cons, List.not_mem_nil, or_false, hByte]
      omega
    · split
      · simp only [List.mem_cons, List.not_mem_nil, or_false, hByte]
        omega
      · simp only [List.mem_cons, List.not_mem_nil, or_false, hByte]
        omega

theorem zero_mem_utf8_iff {s : String} : 0 ∈ utf8 s ↔ Char.ofNat 0 ∈ s.toList := by
  rw [utf8_eq_flatMap, List.mem_flatMap]
  simp only [zero_mem_utf8EncodeChar_iff, exists_eq_right]

theorem zero_notMem_utf8_repr (n : Nat) : 0 ∉ utf8 n.repr := by
  rw [zero_mem_utf8_iff, Nat.repr_eq_ofList_toDigits, String.toList_ofList]
  intro hMem
  have hDigit := Nat.isDigit_of_mem_toDigits (by decide) (by decide) hMem
  exact absurd hDigit (by decide)

/-- The text up to the first zero byte has none itself. -/
theorem terminated?_eq_some_iff {b rest : Bytes} {s : String} :
    terminated? b = some (s, rest) ↔ 0 ∉ utf8 s ∧ b = terminated s ++ rest := by
  unfold terminated? terminated
  constructor
  · intro h
    split at h
    · cases h
    next x tail hDrop =>
      obtain ⟨text, hText, hPair⟩ := Option.map_eq_some_iff.mp h
      cases hPair
      have hZero : x = 0 := by
        have hHead := List.head_dropWhile_not (p := (· != 0)) (l := b) (by rw [hDrop]; nofun)
        simpa [hDrop] using hHead
      have hSplit := List.takeWhile_append_dropWhile (p := (· != 0)) (l := b)
      rw [hDrop, hZero, ← utf8_of_text? hText] at hSplit
      refine ⟨?_, ?_⟩
      · intro hMem
        rw [utf8_of_text? hText] at hMem
        have hAll := List.all_eq_true.mp (List.all_takeWhile (p := (· != 0)) (l := b)) 0 hMem
        cases hAll
      · rw [← hSplit, List.append_assoc]
        rfl
  · rintro ⟨hZero, rfl⟩
    have hAll : ∀ x ∈ utf8 s, (x != 0) = true := by
      intro x hx
      rw [bne_iff_ne]
      rintro rfl
      exact hZero hx
    rw [List.append_assoc, List.dropWhile_append_of_pos hAll, List.takeWhile_append_of_pos hAll]
    simp

end Field

/-! ### Bytes that begin with their own number -/

theorem Bytes.int32At?_zero_eq_some_iff {b : Bytes} {n : Int32} :
    int32At? b 0 = some n ↔ 4 ≤ b.length ∧ n = toInt32 (b.take 4) := by
  rw [int32At?_eq_some_iff, Nat.zero_add, List.drop_zero]

/-- The largest length that a field for it can hold. -/
def maxLength : Nat := 2147483647

/-- Bytes that begin with their own number, which is `least` or more. -/
structure SelfDelimiting (least : Nat) (b : Bytes) : Prop where
  size : least ≤ b.length
  length : (Bytes.toInt32 (b.take 4)).toInt = b.length

theorem SelfDelimiting.length_le {least : Nat} {b : Bytes} (h : SelfDelimiting least b) :
    b.length ≤ maxLength := by
  unfold maxLength
  have hMax := (Bytes.toInt32 (b.take 4)).toInt_lt
  have := h.length
  omega

/-- A length in front of the rest delimits both, if a length can be so large. -/
theorem SelfDelimiting.of_length {least size : Nat} {rest : Bytes}
    (hSize : (Bytes.ofInt32 (Int32.ofNat size) ++ rest).length = size) (hLeast : least ≤ size)
    (hMax : size ≤ maxLength) :
    SelfDelimiting least (Bytes.ofInt32 (Int32.ofNat size) ++ rest) := by
  refine ⟨by rw [hSize]; exact hLeast, ?_⟩
  rw [List.take_left' (Bytes.length_ofInt32 _), Bytes.toInt32_ofInt32, hSize]
  unfold maxLength at hMax
  exact Int32.toInt_ofNat_of_lt (by omega)

/-- Cuts off pieces from the front as long as they give their own length; what is left over is no
piece. -/
def cutBy (least : Nat) (hLeast : 4 ≤ least) (b : Bytes) : List Bytes × Bytes :=
  match Bytes.int32At? b 0 with
  | none => ([], b)
  | some n =>
    if n.toInt < least ∨ b.length < n.toInt then ([], b)
    else
      let (pieces, rest) := cutBy least hLeast (b.drop n.toInt.toNat)
      (b.take n.toInt.toNat :: pieces, rest)
termination_by b.length
decreasing_by
  rw [List.length_drop]
  omega

section

variable {least : Nat} {hLeast : 4 ≤ least}

theorem cutBy_append {piece : Bytes} (h : SelfDelimiting least piece) (rest : Bytes) :
    cutBy least hLeast (piece ++ rest) =
      (piece :: (cutBy least hLeast rest).1, (cutBy least hLeast rest).2) := by
  have hSize := h.size
  have hField : Bytes.int32At? (piece ++ rest) 0 = some (Bytes.toInt32 (piece.take 4)) := by
    rw [Bytes.int32At?_zero_eq_some_iff, List.length_append]
    refine ⟨by omega, ?_⟩
    rw [List.take_append_of_le_length (by omega)]
  have hLength := h.length
  have hNat : (Bytes.toInt32 (piece.take 4)).toInt.toNat = piece.length := by omega
  rw [cutBy, hField]
  dsimp only
  rw [if_neg (by rw [List.length_append]; omega), hNat, List.drop_left, List.take_left]

theorem cutBy_nil : cutBy least hLeast [] = ([], []) := by
  rw [cutBy]
  rfl

/-- Nothing is left over exactly if the whole is a string of pieces, and these are what it is cut
into. -/
theorem cutBy_eq_iff {b : Bytes} {pieces : List Bytes} :
    cutBy least hLeast b = (pieces, []) ↔
      (∀ piece ∈ pieces, SelfDelimiting least piece) ∧ b = pieces.flatten := by
  constructor
  · intro h
    induction b using cutBy.induct least hLeast generalizing pieces with
    | case1 b hNone =>
      rw [cutBy, hNone] at h
      cases h
      exact ⟨nofun, rfl⟩
    | case2 b n hSome hOut =>
      rw [cutBy, hSome] at h
      dsimp only at h
      rw [if_pos hOut] at h
      cases h
      exact ⟨nofun, rfl⟩
    | case3 b n hSome hIn more rest hCut ih =>
      rw [cutBy, hSome] at h
      dsimp only at h
      rw [if_neg hIn, hCut] at h
      cases h
      obtain ⟨hMore, hRest⟩ := ih hCut
      obtain ⟨hFour, rfl⟩ := Bytes.int32At?_zero_eq_some_iff.mp hSome
      have hLength : (b.take (Bytes.toInt32 (b.take 4)).toInt.toNat).length =
          (Bytes.toInt32 (b.take 4)).toInt.toNat := by
        rw [List.length_take]
        omega
      have hStart : (b.take (Bytes.toInt32 (b.take 4)).toInt.toNat).take 4 = b.take 4 := by
        rw [List.take_take, Nat.min_eq_left (by omega)]
      refine ⟨?_, ?_⟩
      · intro piece hPiece
        rcases List.mem_cons.mp hPiece with rfl | hMem
        · refine ⟨by omega, ?_⟩
          rw [hStart, hLength]
          omega
        · exact hMore piece hMem
      · rw [List.flatten_cons, ← hRest, List.take_append_drop]
  · rintro ⟨hPieces, rfl⟩
    induction pieces with
    | nil => exact cutBy_nil
    | cons piece pieces ih =>
      rw [List.flatten_cons, cutBy_append (hPieces piece List.mem_cons_self),
        ih fun p hp => hPieces p (List.mem_cons_of_mem piece hp)]

end

end DocumentLink
