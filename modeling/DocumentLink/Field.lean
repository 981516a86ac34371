import DocumentLink.Bytes

/-! The delimited forms that payloads are made of: text up to a zero byte, text and bytes behind
their length, and the frame of a document.  Each writer has a reader that takes its form off the
front of a byte string and returns what follows it.  The lemmas bound the length of what a reader
leaves, so that readers built from these can recurse on it. -/

namespace DocumentLink.Field

/-- The UTF-8 bytes of a text. -/
def utf8 (s : String) : Bytes := s.toUTF8.data.toList

/-- The text with the given UTF-8 bytes, if they are well formed. -/
def text? (b : Bytes) : Option String := String.fromUTF8? ⟨b.toArray⟩

@[simp] theorem text?_utf8 (s : String) : text? (utf8 s) = some s := by
  simp only [text?, utf8, String.fromUTF8?, String.toUTF8_eq_toByteArray, Array.toArray_toList,
    dif_pos s.isValidUTF8]
  rfl

theorem utf8_of_text? {b : Bytes} {s : String} (h : text? b = some s) : utf8 s = b := by
  simp only [text?, String.fromUTF8?] at h
  split at h
  · cases h
    rfl
  · cases h

/-- The first `n` bytes and the rest, if there are as many. -/
def split? (n : Nat) (b : Bytes) : Option (Bytes × Bytes) :=
  let front := b.take n
  if front.length = n then some (front, b.drop n) else none

/-- A text and a zero byte; meant for a text without one. -/
def terminated (s : String) : Bytes := utf8 s ++ [0]

/-- The text before the first zero byte, and what follows that byte. -/
def terminated? (b : Bytes) : Option (String × Bytes) :=
  match b.dropWhile (· != 0) with
  | [] => none
  | _ :: rest => (text? (b.takeWhile (· != 0))).map (·, rest)

/-- A text behind its length in bytes, which counts the zero byte after the text. -/
def counted (s : String) : Bytes :=
  Bytes.ofInt32 (Int32.ofNat ((utf8 s).length + 1)) ++ terminated s

/-- A length in four bytes, and what follows it. -/
def length? (b : Bytes) : Option (Int32 × Bytes) :=
  (split? 4 b).map fun (front, rest) => (Bytes.toInt32 front, rest)

def counted? (b : Bytes) : Option (String × Bytes) := do
  let (n, b) ← length? b
  if n < 1 then none
  else
    let (content, rest) ← split? n.toNatClampNeg b
    if content.getLast? = some 0 then (text? content.dropLast).map (·, rest) else none

/-- The elements of a document between its length, which counts the whole, and a zero byte. -/
def framed (elements : Bytes) : Bytes :=
  Bytes.ofInt32 (Int32.ofNat (elements.length + 5)) ++ elements ++ [0]

/-- The elements of the document at the front, and what follows the document. -/
def framed? (b : Bytes) : Option (Bytes × Bytes) := do
  let (n, afterLength) ← length? b
  if n < 5 then none
  else
    let (content, rest) ← split? (n.toNatClampNeg - 4) afterLength
    if content.getLast? = some 0 then some (content.dropLast, rest) else none

/-- Bytes behind their number and a subtype.  Under subtype 2 the content is itself bytes behind
their number. -/
def blob (subtype : UInt8) (content : Bytes) : Bytes :=
  let counted (b : Bytes) := Bytes.ofInt32 (Int32.ofNat b.length)
  if subtype = 2 then
    let inner := counted content ++ content
    counted inner ++ subtype :: inner
  else counted content ++ subtype :: content

def blob? (b : Bytes) : Option ((UInt8 × Bytes) × Bytes) := do
  let (n, b) ← length? b
  if n < 0 then none
  else
    match b with
    | [] => none
    | subtype :: b =>
      let (content, rest) ← split? n.toNatClampNeg b
      if subtype = 2 then
        let (m, inner) ← length? content
        if m.toInt = inner.length then some ((subtype, inner), rest) else none
      else some ((subtype, content), rest)

/-! ### What a reader leaves is no longer than what it was given -/

theorem length_of_split? {n : Nat} {b front rest : Bytes} (h : split? n b = some (front, rest)) :
    front.length + rest.length = b.length := by
  simp only [split?] at h
  split at h
  next hFront =>
    cases h
    simp at hFront ⊢
    omega
  next => cases h

theorem length_of_terminated? {b rest : Bytes} {s : String}
    (h : terminated? b = some (s, rest)) : rest.length < b.length := by
  simp only [terminated?] at h
  split at h
  · cases h
  next x tail hDrop =>
    simp only [Option.map_eq_some_iff, Prod.mk.injEq] at h
    obtain ⟨_, _, _, rfl⟩ := h
    have := (List.dropWhile_sublist (l := b) (· != 0)).length_le
    rw [hDrop] at this
    exact this

theorem length_of_length? {b rest : Bytes} {n : Int32} (h : length? b = some (n, rest)) :
    rest.length + 4 = b.length := by
  simp only [length?, Option.map_eq_some_iff, Prod.mk.injEq] at h
  obtain ⟨⟨front, tail⟩, hSplit, _, rfl⟩ := h
  have hFront : front.length = 4 := by
    simp only [split?] at hSplit
    split at hSplit
    next hFront =>
      cases hSplit
      exact hFront
    next => cases hSplit
  have := length_of_split? hSplit
  simp only
  omega

theorem length_of_counted? {b rest : Bytes} {s : String} (h : counted? b = some (s, rest)) :
    rest.length + 4 ≤ b.length := by
  simp only [counted?, Option.bind_eq_bind, Option.bind_eq_some_iff] at h
  obtain ⟨⟨n, tail⟩, hLength, h⟩ := h
  have := length_of_length? hLength
  split at h
  · cases h
  · obtain ⟨⟨content, rest'⟩, hSplit, h⟩ := Option.bind_eq_some_iff.mp h
    have := length_of_split? hSplit
    dsimp only at *
    split at h
    · simp only [Option.map_eq_some_iff, Prod.mk.injEq] at h
      obtain ⟨_, _, _, rfl⟩ := h
      omega
    · cases h

theorem length_of_framed? {b body rest : Bytes} (h : framed? b = some (body, rest)) :
    body.length + rest.length + 5 = b.length := by
  simp only [framed?, Option.bind_eq_bind, Option.bind_eq_some_iff] at h
  obtain ⟨⟨n, tail⟩, hLength, h⟩ := h
  have := length_of_length? hLength
  split at h
  · cases h
  · obtain ⟨⟨content, rest'⟩, hSplit, h⟩ := Option.bind_eq_some_iff.mp h
    have := length_of_split? hSplit
    dsimp only at *
    split at h
    next hLast =>
      cases h
      have : content ≠ [] := by
        rintro rfl
        simp at hLast
      have := List.length_pos_iff.mpr this
      simp only [List.length_dropLast]
      omega
    next => cases h

theorem length_of_blob? {b rest content : Bytes} {subtype : UInt8}
    (h : blob? b = some ((subtype, content), rest)) : rest.length + 5 ≤ b.length := by
  simp only [blob?, Option.bind_eq_bind, Option.bind_eq_some_iff] at h
  obtain ⟨⟨n, tail⟩, hLength, h⟩ := h
  have := length_of_length? hLength
  dsimp only at *
  split at h
  · cases h
  · split at h
    · cases h
    · obtain ⟨⟨content', rest'⟩, hSplit, h⟩ := Option.bind_eq_some_iff.mp h
      have := length_of_split? hSplit
      dsimp only [List.length_cons] at *
      split at h
      · obtain ⟨⟨m, inner⟩, _, h⟩ := Option.bind_eq_some_iff.mp h
        split at h
        · cases h
          omega
        · cases h
      · cases h
        omega

end DocumentLink.Field
