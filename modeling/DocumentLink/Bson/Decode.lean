import DocumentLink.Bson.Value
import DocumentLink.Field

/-! Reading documents.  `Element.read?` cuts one element off the front of an element area and
leaves the element areas nested in it as bytes; `decodeElements` reads those in turn, and ends
because every area it turns to is shorter than the one it stands in. -/

namespace DocumentLink.Bson

/-- A payload whose nested elements are still bytes. -/
inductive Payload where
  | scalar (v : Value)
  | document (elements : Bytes)
  | array (elements : Bytes)
  | codeWithScope (text : String) (elements : Bytes)

namespace Payload

/-- The bytes still to be read. -/
def nested : Payload → Bytes
  | scalar _ => []
  | document elements => elements
  | array elements => elements
  | codeWithScope _ elements => elements

/-- A payload of `n` bytes, and what follows it. -/
def fixed? (n : Nat) (b : Bytes) (value : Bytes → Value) : Option (Payload × Bytes) :=
  (Field.split? n b).map fun (front, rest) => (.scalar (value front), rest)

/-- A payload of exactly `n` bytes that are kept as they are. -/
def block? (n : Nat) (b : Bytes) (value : Block n → Value) : Option (Payload × Bytes) :=
  if h : (b.take n).length = n then some (.scalar (value ⟨b.take n, h⟩), b.drop n) else none

/-- A payload that is one counted text, and what follows it. -/
def text? (b : Bytes) (value : String → Value) : Option (Payload × Bytes) :=
  (Field.counted? b).map fun (text, rest) => (.scalar (value text), rest)

/-- One byte, zero for false and one for true. -/
def boolean? : Bytes → Option (Payload × Bytes)
  | 0 :: rest => some (.scalar (.boolean false), rest)
  | 1 :: rest => some (.scalar (.boolean true), rest)
  | _ => none

/-- A pattern and its options. -/
def regex? (b : Bytes) : Option (Payload × Bytes) := do
  let (pattern, b) ← Field.terminated? b
  let (options, rest) ← Field.terminated? b
  some (.scalar (.regex pattern (sortedOptions options)), rest)

/-- A total length, a counted text and a document that together have that length. -/
def codeWithScope? (b : Bytes) : Option (Payload × Bytes) := do
  let (n, afterLength) ← Field.length? b
  if n < 14 then none
  else
    let (content, rest) ← Field.split? (n.toNatClampNeg - 4) afterLength
    let (text, scope) ← Field.counted? content
    match Field.framed? scope with
    | some (elements, []) => some (.codeWithScope text elements, rest)
    | _ => none

/-- The payload of a value of the given kind at the front of `b`, and what follows it. -/
def read? (kind : Kind) (b : Bytes) : Option (Payload × Bytes) :=
  match kind with
  | .null => some (.scalar .null, b)
  | .undefined => some (.scalar .undefined, b)
  | .minKey => some (.scalar .minKey, b)
  | .maxKey => some (.scalar .maxKey, b)
  | .boolean => boolean? b
  | .int32 => fixed? 4 b fun f => .int32 (Bytes.toInt32 f)
  | .int64 => fixed? 8 b fun f => .int64 (Bytes.toInt64 f)
  | .double => fixed? 8 b fun f => .double (Bytes.toUInt64 f)
  | .date => fixed? 8 b fun f => .date (Bytes.toInt64 f)
  | .timestamp =>
    fixed? 8 b fun f => .timestamp (Bytes.toUInt32 (f.drop 4)) (Bytes.toUInt32 (f.take 4))
  | .objectId => block? 12 b .objectId
  | .decimal128 => block? 16 b .decimal128
  | .string => text? b .string
  | .code => text? b .code
  | .symbol => text? b .symbol
  | .regex => regex? b
  | .binary =>
    (Field.blob? b).map fun ((subtype, content), rest) => (.scalar (.binary subtype content), rest)
  | .document => (Field.framed? b).map fun (elements, rest) => (.document elements, rest)
  | .array => (Field.framed? b).map fun (elements, rest) => (.array elements, rest)
  | .codeWithScope => codeWithScope? b

theorem length_of_codeWithScope? {b rest : Bytes} {p : Payload}
    (h : codeWithScope? b = some (p, rest)) : p.nested.length + rest.length ≤ b.length := by
  simp only [codeWithScope?, Option.bind_eq_bind, Option.bind_eq_some_iff] at h
  obtain ⟨⟨n, tail⟩, hLength, h⟩ := h
  have := Field.length_of_length? hLength
  dsimp only at *
  split at h
  · cases h
  · obtain ⟨⟨content, rest'⟩, hSplit, h⟩ := Option.bind_eq_some_iff.mp h
    have := Field.length_of_split? hSplit
    obtain ⟨⟨text, scope⟩, hText, h⟩ := Option.bind_eq_some_iff.mp h
    have := Field.length_of_counted? hText
    dsimp only at *
    split at h
    next hFrame =>
      have := Field.length_of_framed? hFrame
      cases h
      dsimp only [nested]
      omega
    next => cases h

/-- What is nested in a payload and what follows it share the bytes that were there. -/
theorem length_of_read? {kind : Kind} {b rest : Bytes} {p : Payload}
    (h : read? kind b = some (p, rest)) : p.nested.length + rest.length ≤ b.length := by
  have hFixed {n : Nat} {value : Bytes → Value} (h : fixed? n b value = some (p, rest)) :
      p.nested.length + rest.length ≤ b.length := by
    simp only [fixed?, Option.map_eq_some_iff, Prod.mk.injEq] at h
    obtain ⟨⟨front, tail⟩, hSplit, rfl, rfl⟩ := h
    have := Field.length_of_split? hSplit
    dsimp only [nested, List.length_nil]
    omega
  have hBlock {n : Nat} {value : Block n → Value} (h : block? n b value = some (p, rest)) :
      p.nested.length + rest.length ≤ b.length := by
    simp only [block?] at h
    split at h
    · cases h
      simp [nested]
    · cases h
  have hText {value : String → Value} (h : text? b value = some (p, rest)) :
      p.nested.length + rest.length ≤ b.length := by
    simp only [text?, Option.map_eq_some_iff, Prod.mk.injEq] at h
    obtain ⟨⟨text, tail⟩, hCounted, rfl, rfl⟩ := h
    have := Field.length_of_counted? hCounted
    dsimp only [nested, List.length_nil]
    omega
  cases kind <;> simp only [read?] at h
  case boolean =>
    simp only [boolean?] at h
    split at h <;> cases h <;> simp [nested]
  case null | undefined | minKey | maxKey =>
    cases h
    simp [nested]
  case int32 | int64 | double | date | timestamp => exact hFixed h
  case objectId | decimal128 => exact hBlock h
  case string | code | symbol => exact hText h
  case regex =>
    simp only [regex?, Option.bind_eq_bind, Option.bind_eq_some_iff] at h
    obtain ⟨⟨pattern, tail⟩, hPattern, ⟨options, tail'⟩, hOptions, h⟩ := h
    have := Field.length_of_terminated? hPattern
    have := Field.length_of_terminated? hOptions
    cases h
    dsimp only [nested, List.length_nil] at *
    omega
  case binary =>
    simp only [Option.map_eq_some_iff, Prod.mk.injEq] at h
    obtain ⟨⟨⟨subtype, content⟩, tail⟩, hBlob, rfl, rfl⟩ := h
    have := Field.length_of_blob? hBlob
    dsimp only [nested, List.length_nil]
    omega
  case document | array =>
    simp only [Option.map_eq_some_iff, Prod.mk.injEq] at h
    obtain ⟨⟨elements, tail⟩, hFramed, rfl, rfl⟩ := h
    have := Field.length_of_framed? hFramed
    dsimp only [nested]
    omega
  case codeWithScope => exact length_of_codeWithScope? h

end Payload

/-- A key and its payload. -/
structure Element where
  key : String
  payload : Payload

/-- The element at the front of an element area, and what follows it. -/
def Element.read? : Bytes → Option (Element × Bytes)
  | [] => none
  | tag :: b => do
    let kind ← Kind.ofTag? tag
    let (key, b) ← Field.terminated? b
    let (payload, rest) ← Payload.read? kind b
    some (⟨key, payload⟩, rest)

theorem Element.length_of_read? {b rest : Bytes} {e : Element}
    (h : Element.read? b = some (e, rest)) :
    e.payload.nested.length + rest.length < b.length := by
  cases b with
  | nil => cases h
  | cons tag b =>
    simp only [Element.read?, Option.bind_eq_bind, Option.bind_eq_some_iff] at h
    obtain ⟨kind, _, ⟨key, tail⟩, hKey, ⟨payload, tail'⟩, hPayload, h⟩ := h
    have := Field.length_of_terminated? hKey
    have := Payload.length_of_read? hPayload
    cases h
    dsimp only [List.length_cons] at *
    omega

/-- The keys and values of an element area that elements fill exactly.  Keys of arrays are
ignored; of a nested document each key keeps its last value. -/
def decodeElements (b : Bytes) : Option (List (String × Value)) :=
  if b = [] then some []
  else
    match h : Element.read? b with
    | none => none
    | some (e, rest) => do
      have := Element.length_of_read? h
      let nested ← decodeElements e.payload.nested
      let v := match e.payload with
        | .scalar v => v
        | .document _ => .document (Document.collapse nested)
        | .array _ => .array (nested.map Prod.snd)
        | .codeWithScope text _ => .codeWithScope text (Document.collapse nested)
      let rest ← decodeElements rest
      some ((e.key, v) :: rest)
termination_by b.length
decreasing_by all_goals omega

/-- The document whose bytes are exactly the given ones. -/
def decode? (b : Bytes) : Option Document :=
  match Field.framed? b with
  | some (elements, []) => (decodeElements elements).map Document.collapse
  | _ => none

end DocumentLink.Bson
