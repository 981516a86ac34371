import DocumentLink.Bson.Decode
import DocumentLink.Proofs.Bson.Normal
import DocumentLink.Proofs.Bson.Writing

/-! Documents written and read.  What is written for a value reads as its normal form, whatever
follows it; this goes from the parts of a value to the value. -/

namespace DocumentLink.Bson

/-! ### Reading elements -/

/-- The value of a payload whose nested elements have been read. -/
def Payload.value (nested : List (String × Value)) : Payload → Value
  | .scalar v => v
  | .document _ => .document (Document.collapse nested)
  | .array _ => .array (nested.map Prod.snd)
  | .codeWithScope text _ => .codeWithScope text (Document.collapse nested)

theorem decodeElements_nil : decodeElements [] = some [] := by
  rw [decodeElements]
  rfl

theorem decodeElements_of_read {b rest : Bytes} {e : Element}
    (h : Element.read? b = some (e, rest)) :
    decodeElements b = (decodeElements e.payload.nested).bind fun nested =>
      (decodeElements rest).map ((e.key, e.payload.value nested) :: ·) := by
  have hSome : b ≠ [] := by
    rintro rfl
    cases h
  rw [decodeElements, if_neg hSome]
  split
  next hNone =>
    rw [h] at hNone
    cases hNone
  next e' rest' hRead =>
    rw [h] at hRead
    cases hRead
    cases decodeElements e.payload.nested with
    | none => rfl
    | some nested =>
      cases decodeElements rest with
      | none => rfl
      | some fields => rfl

/-- Whatever follows the payload, it is read as one of the value. -/
def ReadsAs (kind : Kind) (payload : Bytes) (v : Value) : Prop :=
  ∃ p nested, (∀ rest, Payload.read? kind (payload ++ rest) = some (p, rest)) ∧
    decodeElements p.nested = some nested ∧ p.value nested = v

theorem ReadsAs.scalar {kind : Kind} {payload : Bytes} {v : Value}
    (h : ∀ rest, Payload.read? kind (payload ++ rest) = some (.scalar v, rest)) :
    ReadsAs kind payload v :=
  ⟨.scalar v, [], h, decodeElements_nil, rfl⟩

/-- An element is read as its key and the value of its payload. -/
theorem ReadsAs.decodeElements_cons {kind : Kind} {payload : Bytes} {v : Value}
    (h : ReadsAs kind payload v) {key : String} (hKey : 0 ∉ Field.utf8 key) (rest : Bytes) :
    decodeElements (kind.tag :: Field.terminated key ++ payload ++ rest) =
      (decodeElements rest).map ((key, v) :: ·) := by
  obtain ⟨p, nested, hRead, hNested, rfl⟩ := h
  have hElement : Element.read? (kind.tag :: Field.terminated key ++ payload ++ rest) =
      some (⟨key, p⟩, rest) := by
    have hText : Field.terminated? (Field.terminated key ++ (payload ++ rest)) =
        some (key, payload ++ rest) :=
      Field.terminated?_eq_some_iff.mpr ⟨hKey, rfl⟩
    rw [List.cons_append, List.cons_append, List.append_assoc, Element.read?, Kind.ofTag?_tag]
    simp only [Option.bind_eq_bind, Option.bind_some, hText, hRead]
  rw [decodeElements_of_read hElement]
  dsimp only
  rw [hNested]
  rfl

/-! ### Reading payloads -/

namespace Payload

variable {payload rest : Bytes}

theorem fixed?_append {n : Nat} (h : payload.length = n) (value : Bytes → Value) :
    fixed? n (payload ++ rest) value = some (.scalar (value payload), rest) := by
  rw [fixed?, Field.split?_eq_some_iff.mpr ⟨h, rfl⟩]
  rfl

theorem block?_append {n : Nat} (block : Block n) (value : Block n → Value) :
    block? n (block.val ++ rest) value = some (.scalar (value block), rest) := by
  obtain ⟨b, rfl⟩ := block
  unfold block?
  simp only [List.take_left, List.drop_left, dif_pos]

theorem text?_append {text : String} (h : (Field.counted text).length ≤ maxLength)
    (value : String → Value) :
    text? (Field.counted text ++ rest) value = some (.scalar (value text), rest) := by
  rw [text?, Field.counted?_append h]
  rfl

theorem boolean?_append (b : Bool) :
    boolean? ([if b then 1 else 0] ++ rest) = some (.scalar (.boolean b), rest) := by
  cases b <;> rfl

theorem regex?_append {pattern options : String} (hPattern : 0 ∉ Field.utf8 pattern)
    (hOptions : 0 ∉ Field.utf8 options) :
    regex? (Field.terminated pattern ++ Field.terminated options ++ rest) =
      some (.scalar (.regex pattern (sortedOptions options)), rest) := by
  have hFirst := Field.terminated?_eq_some_iff.mpr
    ⟨hPattern, rfl (a := Field.terminated pattern ++ (Field.terminated options ++ rest))⟩
  have hSecond := Field.terminated?_eq_some_iff.mpr
    ⟨hOptions, rfl (a := Field.terminated options ++ rest)⟩
  rw [List.append_assoc, regex?]
  simp only [Option.bind_eq_bind, hFirst, hSecond, Option.bind_some]

theorem codeWithScope?_append {text : String} {elements : Bytes}
    (h : (Field.counted text ++ Field.framed elements).length + 4 ≤ maxLength) :
    codeWithScope? (Bytes.ofInt32
        (Int32.ofNat ((Field.counted text ++ Field.framed elements).length + 4)) ++
      (Field.counted text ++ Field.framed elements) ++ rest) =
      some (.codeWithScope text elements, rest) := by
  have hWhole := h
  rw [List.length_append] at hWhole
  have hTextMax : (Field.counted text).length ≤ maxLength := by omega
  have hScopeMax : (Field.framed elements).length ≤ maxLength := by omega
  have hText := Field.counted?_append hTextMax (Field.framed elements)
  have hScope := Field.framed?_append hScopeMax []
  rw [List.append_nil] at hScope
  have hLeast : 14 ≤ (Field.counted text ++ Field.framed elements).length + 4 := by
    simp only [Field.counted, Field.terminated, Field.framed, List.length_append,
      Bytes.length_ofInt32, List.length_singleton]
    omega
  have hFourteen : (14 : Int32).toInt = (14 : Nat) := rfl
  -- From here on only the length of what the outer length counts matters.
  generalize Field.counted text ++ Field.framed elements = content at *
  obtain ⟨hDeclared, hSize⟩ := (Field.declares_iff hLeast).mpr ⟨rfl, h⟩
  have hLength := Field.length?_eq_some_iff.mpr
    (rfl (a := Bytes.ofInt32 (Int32.ofNat (content.length + 4)) ++ (content ++ rest)))
  have hSplit : Field.split? (content.length + 4 - 4) (content ++ rest) = some (content, rest) :=
    Field.split?_eq_some_iff.mpr ⟨rfl, rfl⟩
  rw [List.append_assoc, codeWithScope?, hLength]
  simp only [Option.bind_eq_bind, Option.bind_some]
  rw [if_neg (by rw [Int32.lt_iff_toInt_lt, hFourteen]; exact hDeclared), hSize, hSplit]
  simp only [Option.bind_some, hText, hScope]

end Payload

/-! ### The round trip -/

/-- What is written for a value is read as its normal form. -/
def Value.Returns (v : Value) : Prop :=
  ∀ kind payload, v.encode = .ok (kind, payload) → payload.length ≤ maxLength →
    ReadsAs kind payload v.normal

theorem decodeElements_encodeFields {fields : List (String × Value)} {elements : Bytes}
    (h : encodeFields fields = .ok elements) (hMax : elements.length ≤ maxLength)
    (hReturns : ∀ v ∈ fields.map Prod.snd, v.Returns) :
    decodeElements elements = some (normalFields fields) := by
  induction fields generalizing elements with
  | nil =>
    rw [encodeFields] at h
    cases h
    exact decodeElements_nil
  | cons field fields ih =>
    obtain ⟨key, v⟩ := field
    obtain ⟨hKey, kind, payload, rest, hValue, hRest, rfl⟩ := encodeFields_cons_eq_ok_iff.mp h
    obtain ⟨hHere, hLater⟩ := List.forall_mem_cons.mp hReturns
    rw [List.length_append, List.length_append] at hMax
    have hReads := hHere kind payload hValue (by omega)
    rw [hReads.decodeElements_cons (Field.zero_mem_utf8_iff.not.mpr hKey),
      ih hRest (by omega) hLater, normalFields]
    rfl

/-- The keys of an array are only places. -/
theorem decodeElements_encodeItems {items : List Value} {i : Nat} {elements : Bytes}
    (h : encodeItems i items = .ok elements) (hMax : elements.length ≤ maxLength)
    (hReturns : ∀ v ∈ items, v.Returns) :
    ∃ fields, decodeElements elements = some fields ∧
      fields.map Prod.snd = normalItems items := by
  induction items generalizing i elements with
  | nil =>
    rw [encodeItems] at h
    cases h
    exact ⟨[], decodeElements_nil, by rw [normalItems]; rfl⟩
  | cons v items ih =>
    obtain ⟨kind, payload, rest, hValue, hRest, rfl⟩ := encodeItems_cons_eq_ok_iff.mp h
    obtain ⟨hHere, hLater⟩ := List.forall_mem_cons.mp hReturns
    rw [List.length_append, List.length_append] at hMax
    have hReads := hHere kind payload hValue (by omega)
    obtain ⟨fields, hFields, hItems⟩ := ih hRest (by omega) hLater
    refine ⟨(i.repr, v.normal) :: fields, ?_, by rw [List.map_cons, hItems, normalItems]⟩
    rw [hReads.decodeElements_cons (Field.zero_notMem_utf8_repr i), hFields]
    rfl

/-- A value returns if its parts do. -/
theorem Value.returns_of_parts {v : Value} (hParts : ∀ part ∈ v.parts, part.Returns) :
    v.Returns := by
  intro kind payload hEncode hMax
  cases v with
  | null | undefined | minKey | maxKey =>
    rw [encode] at hEncode
    cases hEncode
    simp only [normal]
    exact .scalar fun rest => rfl
  | boolean b =>
    rw [encode] at hEncode
    cases hEncode
    simp only [normal]
    exact .scalar fun rest => Payload.boolean?_append b
  | int32 n =>
    rw [encode] at hEncode
    cases hEncode
    simp only [normal]
    refine .scalar fun rest => ?_
    rw [Payload.read?, Payload.fixed?_append (Bytes.length_ofInt32 n), Bytes.toInt32_ofInt32]
  | int64 n | date n =>
    rw [encode] at hEncode
    cases hEncode
    simp only [normal]
    refine .scalar fun rest => ?_
    rw [Payload.read?, Payload.fixed?_append (Bytes.length_ofInt64 n), Bytes.toInt64_ofInt64]
  | unsigned n =>
    rw [encode] at hEncode
    split at hEncode
    next =>
      cases hEncode
      rw [normal]
      refine .scalar fun rest => ?_
      rw [Payload.read?, Payload.fixed?_append (Bytes.length_ofUInt64 n), Bytes.toInt64,
        Bytes.toUInt64_ofUInt64]
    next => cases hEncode
  | double bits =>
    rw [encode] at hEncode
    cases hEncode
    simp only [normal]
    refine .scalar fun rest => ?_
    rw [Payload.read?, Payload.fixed?_append (Bytes.length_ofUInt64 bits), Bytes.toUInt64_ofUInt64]
  | timestamp time increment =>
    rw [encode] at hEncode
    cases hEncode
    simp only [normal]
    have hFour := Bytes.length_ofUInt32 increment
    refine .scalar fun rest => ?_
    rw [Payload.read?, Payload.fixed?_append (by rw [List.length_append, hFour]; rfl),
      List.drop_left' hFour, List.take_left' hFour, Bytes.toUInt32_ofUInt32,
      Bytes.toUInt32_ofUInt32]
  | objectId block | decimal128 block =>
    rw [encode] at hEncode
    cases hEncode
    simp only [normal]
    exact .scalar fun rest => Payload.block?_append block _
  | string text | code text | symbol text =>
    rw [encode] at hEncode
    cases hEncode
    simp only [normal]
    exact .scalar fun rest => Payload.text?_append hMax _
  | regex pattern options =>
    rw [encode] at hEncode
    simp only [bind_eq_ok_iff, encodeTerminated_eq_ok_iff] at hEncode
    obtain ⟨_, ⟨hPattern, rfl⟩, _, ⟨hOptions, rfl⟩, ⟨⟩⟩ := hEncode
    rw [normal]
    refine .scalar fun rest => ?_
    rw [Payload.read?, Payload.regex?_append (Field.zero_mem_utf8_iff.not.mpr hPattern)
      (Field.zero_mem_utf8_iff.not.mpr hOptions), sortedOptions_sortedOptions]
  | binary subtype content =>
    rw [encode] at hEncode
    cases hEncode
    simp only [normal]
    refine .scalar fun rest => ?_
    rw [Payload.read?, Field.blob?_append hMax]
    rfl
  | document fields =>
    rw [encode] at hEncode
    obtain ⟨elements, hFields, ⟨⟩⟩ := bind_eq_ok_iff.mp hEncode
    have hNested := decodeElements_encodeFields hFields
      (by rw [Field.length_framed] at hMax; omega) hParts
    rw [normal]
    refine ⟨.document elements, normalFields fields, fun rest => ?_, hNested, ?_⟩
    · rw [Payload.read?, Field.framed?_append hMax]
      rfl
    · rw [Payload.value, Document.collapse_eq_settled]
  | array items =>
    rw [encode] at hEncode
    obtain ⟨elements, hItems, ⟨⟩⟩ := bind_eq_ok_iff.mp hEncode
    obtain ⟨fields, hNested, hNormal⟩ := decodeElements_encodeItems hItems
      (by rw [Field.length_framed] at hMax; omega) hParts
    rw [normal]
    refine ⟨.array elements, fields, fun rest => ?_, hNested, ?_⟩
    · rw [Payload.read?, Field.framed?_append hMax]
      rfl
    · rw [Payload.value, hNormal]
  | codeWithScope text scope =>
    rw [encode] at hEncode
    obtain ⟨elements, hScope, ⟨⟩⟩ := bind_eq_ok_iff.mp hEncode
    rw [List.length_append, Bytes.length_ofInt32] at hMax
    have hNested := decodeElements_encodeFields hScope
      (by rw [List.length_append, Field.length_framed] at hMax; omega) hParts
    rw [normal]
    refine ⟨.codeWithScope text elements, normalFields scope, fun rest => ?_, hNested, ?_⟩
    · rw [Payload.read?, Payload.codeWithScope?_append (by omega)]
    · rw [Payload.value, Document.collapse_eq_settled]
  | failing message =>
    rw [encode] at hEncode
    cases hEncode

theorem Value.returns (v : Value) : v.Returns :=
  v.induction fun _ => returns_of_parts

theorem marshal_document_eq_ok_iff {d : Document} {b : Bytes} :
    (Value.document d).marshal = .ok b ↔
      ∃ elements, encodeFields d = .ok elements ∧ Field.framed elements = b :=
  map_eq_ok_iff

theorem decode?_of_marshal {d : Document} {b : Bytes} (h : (Value.document d).marshal = .ok b)
    (hMax : b.length ≤ maxLength) : decode? b = some d.normal := by
  obtain ⟨elements, hFields, rfl⟩ := marshal_document_eq_ok_iff.mp h
  have hFrame := Field.framed?_append hMax []
  rw [List.append_nil] at hFrame
  have hNested := decodeElements_encodeFields hFields
    (by rw [Field.length_framed] at hMax; omega) fun v _ => v.returns
  rw [decode?, hFrame]
  dsimp only
  rw [hNested, Option.map_some, Document.collapse_eq_settled, Document.normal]

/-- A document can be written exactly if nothing in it is at fault, and what is written of it, if
its length can be given, is read as its normal form. -/
theorem Document.decode_marshal (d : Document) :
    ((∃ b, (Value.document d).marshal = .ok b) ↔ ¬(Value.document d).Faulty) ∧
      ∀ b, (Value.document d).marshal = .ok b → b.length ≤ maxLength →
        decode? b = some d.normal := by
  refine ⟨?_, fun _ => decode?_of_marshal⟩
  rw [← Value.encode_isOk_iff, Value.encode, exists_bind_pure_eq_ok_iff]
  simp only [marshal_document_eq_ok_iff]
  constructor
  · rintro ⟨_, elements, hFields, _⟩
    exact ⟨elements, hFields⟩
  · rintro ⟨elements, hFields⟩
    exact ⟨_, elements, hFields, rfl⟩

end DocumentLink.Bson
