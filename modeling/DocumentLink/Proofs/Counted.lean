import DocumentLink.Proofs.Delimited

/-! The forms that stand behind their length, read and written.  The reader of such a form takes
off the front of a byte string exactly what its writer makes, if the length fits in the field for
it. -/

namespace DocumentLink.Field

theorem text?_eq_some_iff {b : Bytes} {s : String} : text? b = some s ↔ b = utf8 s := by
  constructor
  · intro h
    exact (utf8_of_text? h).symm
  · rintro rfl
    exact text?_utf8 s

/-- A declared length that is not below `least` is that of so many bytes. -/
theorem declares_iff {n : Int32} {least size : Nat} (hLeast : least ≤ size) :
    (¬n.toInt < least ∧ n.toNatClampNeg = size) ↔ n = Int32.ofNat size ∧ size ≤ maxLength := by
  unfold maxLength
  constructor
  · rintro ⟨hDeclared, rfl⟩
    have hLt := n.toNatClampNeg_lt
    have hNonneg : 0 ≤ n := by
      rw [Int32.le_iff_toInt_le, Int32.toInt_zero]
      omega
    exact ⟨(n.ofNat_toNatClampNeg hNonneg).symm, by omega⟩
  · rintro ⟨rfl, hMax⟩
    rw [Int32.toInt_ofNat_of_lt (by omega), Int32.toNatClampNeg_ofNat_of_lt (by omega)]
    exact ⟨by omega, rfl⟩

theorem counted?_eq_some_iff {b rest : Bytes} {s : String} :
    counted? b = some (s, rest) ↔ b = counted s ++ rest ∧ (utf8 s).length + 1 ≤ maxLength := by
  unfold counted? counted terminated
  simp only [Option.bind_eq_bind, Option.bind_eq_some_iff, Prod.exists, length?_eq_some_iff,
    Option.ite_none_left_eq_some, Int32.lt_iff_toInt_lt, Int32.toInt_one, split?_eq_some_iff,
    Option.ite_none_right_eq_some, List.getLast?_eq_some_iff, Option.map_eq_some_iff,
    text?_eq_some_iff, Prod.mk.injEq]
  constructor
  · rintro ⟨n, _, rfl, hLeast, _, _, ⟨hLength, rfl⟩, ⟨text, rfl⟩, _, hText, rfl, rfl⟩
    rw [List.dropLast_concat] at hText
    subst hText
    rw [List.length_append, List.length_singleton] at hLength
    obtain ⟨rfl, hMax⟩ := (declares_iff (Nat.le_add_left 1 _)).mp ⟨hLeast, hLength.symm⟩
    exact ⟨by simp only [List.append_assoc], hMax⟩
  · rintro ⟨rfl, hMax⟩
    obtain ⟨hLeast, hLength⟩ := (declares_iff (Nat.le_add_left 1 _)).mpr ⟨rfl, hMax⟩
    refine ⟨_, utf8 s ++ [0] ++ rest, by rw [List.append_assoc], hLeast, utf8 s ++ [0], rest,
      ⟨?_, rfl⟩, ⟨utf8 s, rfl⟩, s, List.dropLast_concat, rfl, rfl⟩
    rw [hLength, List.length_append, List.length_singleton]

theorem counted?_append {s : String} (h : (counted s).length ≤ maxLength) (rest : Bytes) :
    counted? (counted s ++ rest) = some (s, rest) := by
  rw [counted?_eq_some_iff]
  refine ⟨rfl, ?_⟩
  simp only [counted, terminated, List.length_append, Bytes.length_ofInt32,
    List.length_singleton] at h
  omega

theorem framed?_eq_some_iff {b elements rest : Bytes} :
    framed? b = some (elements, rest) ↔
      b = framed elements ++ rest ∧ elements.length + 5 ≤ maxLength := by
  have hFive : (5 : Int32).toInt = (5 : Nat) := rfl
  unfold framed? framed
  simp only [Option.bind_eq_bind, Option.bind_eq_some_iff, Prod.exists, length?_eq_some_iff,
    Option.ite_none_left_eq_some, Int32.lt_iff_toInt_lt, hFive, split?_eq_some_iff,
    Option.ite_none_right_eq_some, List.getLast?_eq_some_iff, Option.some.injEq, Prod.mk.injEq]
  constructor
  · rintro ⟨n, _, rfl, hLeast, _, _, ⟨hLength, rfl⟩, ⟨elements, rfl⟩, rfl, rfl⟩
    rw [List.dropLast_concat]
    rw [List.length_append, List.length_singleton, ← Int32.toNat_toInt] at hLength
    have hSize : n.toNatClampNeg = elements.length + 5 := by
      rw [← Int32.toNat_toInt]
      omega
    obtain ⟨rfl, hMax⟩ := (declares_iff (Nat.le_add_left 5 _)).mp ⟨hLeast, hSize⟩
    exact ⟨by simp only [List.append_assoc], hMax⟩
  · rintro ⟨rfl, hMax⟩
    obtain ⟨hLeast, hLength⟩ := (declares_iff (Nat.le_add_left 5 _)).mpr ⟨rfl, hMax⟩
    refine ⟨_, elements ++ [0] ++ rest, by simp only [List.append_assoc], hLeast,
      elements ++ [0], rest, ⟨?_, rfl⟩, ⟨elements, rfl⟩, List.dropLast_concat, rfl⟩
    rw [hLength, List.length_append, List.length_singleton]
    rfl

theorem length_framed (elements : Bytes) : (framed elements).length = elements.length + 5 := by
  simp only [framed, List.length_append, Bytes.length_ofInt32, List.length_singleton]
  omega

/-- A frame delimits itself, unless its length does not fit in the field for it. -/
theorem selfDelimiting_framed {elements : Bytes} (h : (framed elements).length ≤ maxLength) :
    SelfDelimiting 5 (framed elements) := by
  have hSize := length_framed elements
  rw [hSize] at h
  unfold framed at *
  rw [List.append_assoc] at *
  exact .of_length hSize (by omega) h

theorem framed?_append {elements : Bytes} (h : (framed elements).length ≤ maxLength)
    (rest : Bytes) : framed? (framed elements ++ rest) = some (elements, rest) := by
  rw [length_framed] at h
  exact framed?_eq_some_iff.mpr ⟨rfl, h⟩

/-- What stands behind the number of a blob and its subtype. -/
def stored (subtype : UInt8) (content : Bytes) : Bytes :=
  if subtype = 2 then Bytes.ofInt32 (Int32.ofNat content.length) ++ content else content

theorem blob_eq (subtype : UInt8) (content : Bytes) : blob subtype content =
    Bytes.ofInt32 (Int32.ofNat (stored subtype content).length) ++
      subtype :: stored subtype content := by
  unfold blob stored
  split <;> rfl

theorem blob?_eq_some_iff {b content rest : Bytes} {subtype : UInt8} :
    blob? b = some ((subtype, content), rest) ↔
      b = blob subtype content ++ rest ∧ (stored subtype content).length ≤ maxLength := by
  have hZero : (0 : Int32).toInt = (0 : Nat) := rfl
  rw [blob_eq]
  unfold blob?
  simp only [Option.bind_eq_bind, Option.bind_eq_some_iff, Prod.exists, length?_eq_some_iff,
    Option.ite_none_left_eq_some, Int32.lt_iff_toInt_lt, hZero]
  constructor
  · rintro ⟨n, b, rfl, hLeast, h⟩
    obtain _ | ⟨subtype', b⟩ := b
    · cases h
    simp only [Option.bind_eq_some_iff, Prod.exists, split?_eq_some_iff] at h
    obtain ⟨found, rest', ⟨hLength, rfl⟩, h⟩ := h
    obtain ⟨rfl, hMax⟩ := (declares_iff (Nat.zero_le _)).mp ⟨hLeast, hLength.symm⟩
    suffices hStored : subtype' = subtype ∧ found = stored subtype content ∧ rest' = rest by
      obtain ⟨rfl, rfl, rfl⟩ := hStored
      exact ⟨by simp only [List.append_assoc, List.cons_append], hMax⟩
    unfold stored
    split at h
    next hTwo =>
      simp only [Option.bind_eq_some_iff, Prod.exists, length?_eq_some_iff,
        Option.ite_none_right_eq_some, Option.some.injEq, Prod.mk.injEq] at h
      obtain ⟨m, inner, rfl, hInner, ⟨rfl, rfl⟩, rfl⟩ := h
      rw [List.length_append] at hMax
      have hNat : m.toNatClampNeg = inner.length := by
        rw [← Int32.toNat_toInt, hInner, Int.toNat_natCast]
      obtain ⟨rfl, _⟩ := (declares_iff (Nat.zero_le _)).mp ⟨by omega, hNat⟩
      rw [if_pos hTwo]
      exact ⟨rfl, rfl, rfl⟩
    next hTwo =>
      cases h
      rw [if_neg hTwo]
      exact ⟨rfl, rfl, rfl⟩
  · rintro ⟨rfl, hMax⟩
    obtain ⟨hLeast, hLength⟩ := (declares_iff (Nat.zero_le _)).mpr ⟨rfl, hMax⟩
    refine ⟨_, subtype :: (stored subtype content ++ rest),
      by simp only [List.append_assoc, List.cons_append], hLeast, ?_⟩
    refine Option.bind_eq_some_iff.mpr ⟨(stored subtype content, rest), ?_, ?_⟩
    · exact split?_eq_some_iff.mpr ⟨hLength.symm, rfl⟩
    · unfold stored at *
      dsimp only
      split
      next hTwo =>
        rw [if_pos hTwo, List.length_append] at hMax
        refine Option.bind_eq_some_iff.mpr
          ⟨(Int32.ofNat content.length, content), length?_eq_some_iff.mpr rfl, if_pos ?_⟩
        unfold maxLength at hMax
        exact Int32.toInt_ofNat_of_lt (by omega)
      next => rfl

theorem blob?_append {subtype : UInt8} {content : Bytes}
    (h : (blob subtype content).length ≤ maxLength) (rest : Bytes) :
    blob? (blob subtype content ++ rest) = some ((subtype, content), rest) := by
  rw [blob?_eq_some_iff]
  refine ⟨rfl, ?_⟩
  rw [blob_eq, List.length_append, List.length_cons] at h
  omega

end DocumentLink.Field
