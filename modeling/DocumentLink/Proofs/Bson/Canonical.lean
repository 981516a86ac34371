import DocumentLink.Proofs.Bson.RoundTrip

/-! Documents that have been read.  Whatever bytes a document is read from, it comes out canonical:
no key is there twice, options are in order, and there is nothing that could not be written.  A
canonical value is its own normal form, so writing such a document and reading it again changes
nothing. -/

namespace DocumentLink.Bson

/-! ### Canonical values -/

namespace Value

/-- Directly in a value nothing is at fault and nothing is left to be normalised. -/
structure CanonicalHere (v : Value) : Prop where
  sound : ¬v.FaultyHere
  distinct : v.keys.Nodup
  ordered : ∀ pattern options, v = .regex pattern options →
    options.toList.Pairwise fun a b => a ≤ b
  signed : ∀ n, v ≠ .unsigned n

/-- A value is canonical at every depth. -/
inductive Canonical : Value → Prop
  | intro {v : Value} (here : v.CanonicalHere) (parts : ∀ part ∈ v.parts, Canonical part) :
      Canonical v

theorem Canonical.not_faulty {v : Value} (h : v.Canonical) : ¬v.Faulty := by
  induction h with
  | intro here _ ih =>
    rintro (hFaulty | ⟨hPart, hFaulty⟩)
    · exact here.sound hFaulty
    · exact ih _ hPart hFaulty

/-- A value that can be written is canonical if it has no keys, no options, no parts and a sign. -/
theorem Canonical.of_plain {v : Value} (hWritten : ∃ r, v.encode = .ok r) (hKeys : v.keys = [])
    (hParts : v.parts = []) (hRegex : ∀ pattern options, v ≠ .regex pattern options)
    (hSigned : ∀ n, v ≠ .unsigned n) : v.Canonical := by
  refine .intro ⟨(v.encode_isOk_iff_parts.mp hWritten).1, ?_, ?_, hSigned⟩ ?_
  · rw [hKeys]
    exact List.nodup_nil
  · intro pattern options h
    exact absurd h (hRegex pattern options)
  · rw [hParts]
    exact List.forall_mem_nil _

end Value

/-! ### A canonical value is its own normal form -/

namespace Document

variable {α : Type}

theorem lastGiven?_eq_none {key : String} {fields : List (String × α)}
    (h : key ∉ fields.map Prod.fst) : lastGiven? key fields = none := by
  rw [lastGiven?, List.lookup_eq_none_iff]
  intro field hField
  rw [bne_iff_ne]
  rintro rfl
  exact h (List.mem_map_of_mem (List.mem_reverse.mp hField))

theorem without_of_notMem {key : String} {fields : List (String × α)}
    (h : key ∉ fields.map Prod.fst) : without key fields = fields := by
  rw [without, List.filter_eq_self]
  intro field hField
  rw [bne_iff_ne]
  rintro rfl
  exact h (List.mem_map_of_mem hField)

theorem settled_of_nodup {fields : List (String × α)} (h : (fields.map Prod.fst).Nodup) :
    settled fields = fields := by
  induction fields with
  | nil => rfl
  | cons field rest ih =>
    obtain ⟨key, v⟩ := field
    obtain ⟨hKey, hRest⟩ := List.nodup_cons.mp h
    rw [settled, ih hRest, lastGiven?_eq_none hKey, without_of_notMem hKey, Option.getD_none]

theorem lastGiven?_eq_some_iff {key : String} {v : α} {fields : List (String × α)} :
    lastGiven? key fields = some v ↔ ∃ first rest, fields = first ++ (key, v) :: rest ∧
      key ∉ rest.map Prod.fst := by
  have hNotMem {l : List (String × α)} : (∀ p ∈ l, (key != p.1) = true) ↔ key ∉ l.map Prod.fst := by
    rw [List.mem_map]
    constructor
    · rintro h ⟨p, hp, rfl⟩
      exact absurd rfl (bne_iff_ne.mp (h p hp))
    · intro h p hp
      exact bne_iff_ne.mpr fun hKey => h ⟨p, hp, hKey.symm⟩
  rw [lastGiven?, List.lookup_eq_some_iff]
  constructor
  · rintro ⟨later, first, hSplit, hLater⟩
    refine ⟨first.reverse, later.reverse, ?_, ?_⟩
    · rw [← List.reverse_inj, hSplit]
      simp
    · rw [List.map_reverse, List.mem_reverse]
      exact hNotMem.mp hLater
  · rintro ⟨first, rest, rfl, hRest⟩
    refine ⟨rest.reverse, first.reverse, by simp, hNotMem.mpr ?_⟩
    rw [List.map_reverse, List.mem_reverse]
    exact hRest

/-- Each key keeps the value that it was given last. -/
theorem lastGiven?_of_mem_settled {field : String × α} {fields : List (String × α)}
    (h : field ∈ settled fields) : lastGiven? field.1 fields = some field.2 := by
  induction fields with
  | nil => cases h
  | cons first rest ih =>
    obtain ⟨key, v⟩ := first
    rw [lastGiven?_cons]
    rcases List.mem_cons.mp h with rfl | hRest
    · rw [if_pos rfl]
      cases lastGiven? key rest <;> rfl
    · rw [ih (List.mem_of_mem_filter hRest), Option.some_or]

/-- Settling makes no fields up. -/
theorem mem_of_mem_settled {field : String × α} {fields : List (String × α)}
    (h : field ∈ settled fields) : field.1 ∈ fields.map Prod.fst ∧ field ∈ fields := by
  obtain ⟨first, rest, rfl, _⟩ := lastGiven?_eq_some_iff.mp (lastGiven?_of_mem_settled h)
  have hMem : field ∈ first ++ field :: rest := List.mem_append_right _ List.mem_cons_self
  exact ⟨List.mem_map_of_mem hMem, hMem⟩

theorem nodup_settled (fields : List (String × α)) : ((settled fields).map Prod.fst).Nodup := by
  induction fields with
  | nil => exact List.nodup_nil
  | cons field rest ih =>
    obtain ⟨key, v⟩ := field
    refine List.nodup_cons.mpr ⟨?_, ih.sublist (List.filter_sublist.map _)⟩
    intro hKey
    obtain ⟨field, hField, rfl⟩ := List.mem_map.mp hKey
    obtain ⟨_, hOther⟩ := List.mem_filter.mp hField
    exact absurd rfl (bne_iff_ne.mp hOther)

theorem settled_without (key : String) (fields : List (String × α)) :
    settled (without key fields) = without key (settled fields) := by
  rw [← collapse_eq_settled, ← collapse_eq_settled]
  exact (without_putAll key [] fields).symm

/-- Each key keeps its first place. -/
theorem keys_settled (fields : List (String × α)) :
    (settled fields).map Prod.fst = (fields.map Prod.fst).eraseDups := by
  match fields with
  | [] => rfl
  | (key, v) :: rest =>
    have hRest : (without key rest).map Prod.fst =
        (rest.map Prod.fst).filter fun k => !k == key := by
      rw [List.filter_map]
      rfl
    rw [settled, List.map_cons, ← settled_without, keys_settled (without key rest), hRest,
      List.map_cons, List.eraseDups_cons]
termination_by fields.length
decreasing_by exact Nat.lt_succ_of_le (List.length_filter_le _ _)

end Document

theorem normalFields_eq {fields : List (String × Value)}
    (h : ∀ v ∈ fields.map Prod.snd, v.normal = v) : normalFields fields = fields := by
  induction fields with
  | nil => rw [normalFields]
  | cons field rest ih =>
    obtain ⟨key, v⟩ := field
    obtain ⟨hHere, hRest⟩ := List.forall_mem_cons.mp h
    rw [normalFields, hHere, ih hRest]

theorem normalItems_eq {items : List Value} (h : ∀ v ∈ items, v.normal = v) :
    normalItems items = items := by
  induction items with
  | nil => rw [normalItems]
  | cons v rest ih =>
    obtain ⟨hHere, hRest⟩ := List.forall_mem_cons.mp h
    rw [normalItems, hHere, ih hRest]

theorem Value.Canonical.normal_eq {v : Value} (h : v.Canonical) : v.normal = v := by
  induction h with
  | @intro v here _ ih =>
    cases v with
    | unsigned n => exact absurd rfl (here.signed n)
    | regex pattern options =>
      rw [normal, sortedOptions_of_ordered (here.ordered pattern options rfl)]
    | document fields =>
      rw [normal, normalFields_eq ih, Document.settled_of_nodup here.distinct]
    | array items => rw [normal, @normalItems_eq items ih]
    | codeWithScope text scope =>
      rw [normal, normalFields_eq ih, Document.settled_of_nodup here.distinct]
    | _ => simp only [normal]

/-! ### What is read is canonical -/

/-- Keys and values that can stand in a canonical document, but for keys that are repeated. -/
structure CanonicalFields (fields : List (String × Value)) : Prop where
  keys : ∀ key ∈ fields.map Prod.fst, Char.ofNat 0 ∉ key.toList
  values : ∀ v ∈ fields.map Prod.snd, v.Canonical

theorem CanonicalFields.collapse {fields : List (String × Value)} (h : CanonicalFields fields) :
    CanonicalFields (Document.collapse fields) ∧
      ((Document.collapse fields).map Prod.fst).Nodup := by
  rw [Document.collapse_eq_settled]
  refine ⟨⟨?_, ?_⟩, Document.nodup_settled fields⟩
  · intro key hKey
    obtain ⟨field, hField, rfl⟩ := List.mem_map.mp hKey
    exact h.keys _ (Document.mem_of_mem_settled hField).1
  · intro v hValue
    obtain ⟨field, hField, rfl⟩ := List.mem_map.mp hValue
    exact h.values _ (List.mem_map_of_mem (Document.mem_of_mem_settled hField).2)

theorem CanonicalFields.document {fields : List (String × Value)} (h : CanonicalFields fields) :
    (Value.document (Document.collapse fields)).Canonical := by
  obtain ⟨hFields, hDistinct⟩ := h.collapse
  exact .intro ⟨Value.not_faultyHere_document_iff.mpr hFields.keys, hDistinct, nofun, nofun⟩
    hFields.values

theorem CanonicalFields.codeWithScope {fields : List (String × Value)}
    (h : CanonicalFields fields) (text : String) :
    (Value.codeWithScope text (Document.collapse fields)).Canonical := by
  obtain ⟨hFields, hDistinct⟩ := h.collapse
  exact .intro ⟨Value.not_faultyHere_codeWithScope_iff.mpr hFields.keys, hDistinct, nofun, nofun⟩
    hFields.values

theorem CanonicalFields.array {fields : List (String × Value)} (h : CanonicalFields fields) :
    (Value.array (fields.map Prod.snd)).Canonical := by
  refine .intro ⟨?_, List.nodup_nil, nofun, nofun⟩ h.values
  rintro (_ | _ | _ | _ | ⟨hKey, _⟩)
  cases hKey

namespace Payload

variable {b rest : Bytes} {v : Value}

theorem scalar_of_fixed? {n : Nat} {value : Bytes → Value}
    (h : fixed? n b value = some (.scalar v, rest)) : ∃ front, v = value front := by
  obtain ⟨⟨front, _⟩, _, hValue⟩ := Option.map_eq_some_iff.mp h
  cases hValue
  exact ⟨front, rfl⟩

theorem scalar_of_block? {n : Nat} {value : Block n → Value}
    (h : block? n b value = some (.scalar v, rest)) : ∃ block, v = value block := by
  unfold block? at h
  split at h
  next hLength =>
    cases h
    exact ⟨_, rfl⟩
  next => cases h

theorem scalar_of_text? {value : String → Value}
    (h : text? b value = some (.scalar v, rest)) : ∃ text, v = value text := by
  obtain ⟨⟨text, _⟩, _, hValue⟩ := Option.map_eq_some_iff.mp h
  cases hValue
  exact ⟨text, rfl⟩

theorem canonical_regex? (h : regex? b = some (.scalar v, rest)) : v.Canonical := by
  simp only [regex?, Option.bind_eq_bind, Option.bind_eq_some_iff, Prod.exists] at h
  obtain ⟨pattern, b', hPattern, options, _, hOptions, h⟩ := h
  cases h
  obtain ⟨hPattern, _⟩ := Field.terminated?_eq_some_iff.mp hPattern
  obtain ⟨hOptions, _⟩ := Field.terminated?_eq_some_iff.mp hOptions
  rw [Field.zero_mem_utf8_iff] at hPattern hOptions
  refine .intro ⟨?_, List.nodup_nil, ?_, by rintro _ ⟨⟩⟩ (List.forall_mem_nil _)
  · rw [Value.not_faultyHere_regex_iff, zero_mem_sortedOptions]
    exact ⟨hPattern, hOptions⟩
  · rintro _ _ ⟨⟩
    exact ordered_sortedOptions options

/-- A payload in which nothing is nested is read as a canonical value. -/
theorem canonical_of_read? {kind : Kind} (h : read? kind b = some (.scalar v, rest)) :
    v.Canonical := by
  cases kind <;> simp only [read?] at h
  case null | undefined | minKey | maxKey =>
    cases h
    exact .of_plain ⟨_, rfl⟩ rfl rfl (by rintro _ _ ⟨⟩) (by rintro _ ⟨⟩)
  case boolean =>
    unfold boolean? at h
    split at h <;> cases h <;> exact .of_plain ⟨_, rfl⟩ rfl rfl (by rintro _ _ ⟨⟩) (by rintro _ ⟨⟩)
  case int32 | int64 | double | date | timestamp =>
    obtain ⟨front, rfl⟩ := scalar_of_fixed? h
    exact .of_plain ⟨_, rfl⟩ rfl rfl (by rintro _ _ ⟨⟩) (by rintro _ ⟨⟩)
  case objectId | decimal128 =>
    obtain ⟨block, rfl⟩ := scalar_of_block? h
    exact .of_plain ⟨_, rfl⟩ rfl rfl (by rintro _ _ ⟨⟩) (by rintro _ ⟨⟩)
  case string | code | symbol =>
    obtain ⟨text, rfl⟩ := scalar_of_text? h
    exact .of_plain ⟨_, rfl⟩ rfl rfl (by rintro _ _ ⟨⟩) (by rintro _ ⟨⟩)
  case regex => exact canonical_regex? h
  case binary =>
    obtain ⟨⟨⟨subtype, content⟩, _⟩, _, hValue⟩ := Option.map_eq_some_iff.mp h
    cases hValue
    exact .of_plain ⟨_, rfl⟩ rfl rfl (by rintro _ _ ⟨⟩) (by rintro _ ⟨⟩)
  case document | array =>
    obtain ⟨_, _, hValue⟩ := Option.map_eq_some_iff.mp h
    cases hValue
  case codeWithScope =>
    unfold codeWithScope? at h
    obtain ⟨_, _, h⟩ := Option.bind_eq_some_iff.mp h
    obtain ⟨_, h⟩ := Option.ite_none_left_eq_some.mp h
    obtain ⟨_, _, h⟩ := Option.bind_eq_some_iff.mp h
    obtain ⟨_, _, h⟩ := Option.bind_eq_some_iff.mp h
    dsimp only at h
    split at h <;> cases h

end Payload

/-- An element area is empty, or an element and the area of the others. -/
theorem decodeElements_eq_some {b : Bytes} {fields : List (String × Value)}
    (h : decodeElements b = some fields) : fields = [] ∨ ∃ e rest nested more,
      Element.read? b = some (e, rest) ∧ decodeElements e.payload.nested = some nested ∧
        decodeElements rest = some more ∧ fields = (e.key, e.payload.value nested) :: more := by
  cases hRead : Element.read? b with
  | none =>
    rw [decodeElements] at h
    split at h
    next =>
      cases h
      exact .inl rfl
    next =>
      split at h
      next => cases h
      next hSome =>
        rw [hRead] at hSome
        cases hSome
  | some found =>
    obtain ⟨e, rest⟩ := found
    rw [decodeElements_of_read hRead, Option.bind_eq_some_iff] at h
    obtain ⟨nested, hNested, h⟩ := h
    obtain ⟨more, hMore, rfl⟩ := Option.map_eq_some_iff.mp h
    exact .inr ⟨e, rest, nested, more, rfl, hNested, hMore, rfl⟩

theorem decodeElements_of_parts {b rest : Bytes} {e : Element}
    {nested more : List (String × Value)} (hRead : Element.read? b = some (e, rest))
    (hNested : decodeElements e.payload.nested = some nested)
    (hRest : decodeElements rest = some more) :
    decodeElements b = some ((e.key, e.payload.value nested) :: more) := by
  rw [decodeElements_of_read hRead, hNested, hRest]
  rfl

theorem CanonicalFields.element {b rest : Bytes} {e : Element}
    {nested more : List (String × Value)} (hRead : Element.read? b = some (e, rest))
    (hNested : CanonicalFields nested) (hMore : CanonicalFields more) :
    CanonicalFields ((e.key, e.payload.value nested) :: more) := by
  obtain _ | ⟨tag, b⟩ := b
  · cases hRead
  simp only [Element.read?, Option.bind_eq_bind, Option.bind_eq_some_iff, Prod.exists] at hRead
  obtain ⟨kind, _, key, b', hKey, payload, _, hPayload, h⟩ := hRead
  cases h
  rw [Field.terminated?_eq_some_iff, Field.zero_mem_utf8_iff] at hKey
  refine ⟨List.forall_mem_cons.mpr ⟨hKey.1, hMore.keys⟩,
    List.forall_mem_cons.mpr ⟨?_, hMore.values⟩⟩
  cases payload with
  | scalar v => exact Payload.canonical_of_read? hPayload
  | document _ => exact hNested.document
  | array _ => exact hNested.array
  | codeWithScope text _ => exact hNested.codeWithScope text

/-- What is read from an element area is canonical if what is read from the shorter areas in it
is. -/
theorem canonicalFields_of_decodeElements {b : Bytes} {fields : List (String × Value)}
    (h : decodeElements b = some fields) : CanonicalFields fields := by
  obtain rfl | ⟨e, rest, nested, more, hRead, hNested, hMore, rfl⟩ := decodeElements_eq_some h
  · exact ⟨nofun, nofun⟩
  · have := Element.length_of_read? hRead
    exact .element hRead (canonicalFields_of_decodeElements hNested)
      (canonicalFields_of_decodeElements hMore)
termination_by b.length
decreasing_by all_goals omega

theorem canonical_of_decode? {b : Bytes} {d : Document} (h : decode? b = some d) :
    (Value.document d).Canonical := by
  unfold decode? at h
  split at h
  next elements hFrame =>
    obtain ⟨fields, hFields, rfl⟩ := Option.map_eq_some_iff.mp h
    exact (canonicalFields_of_decodeElements hFields).document
  next => cases h

/-- Whatever is read can be written, and what is written of it is read as the same document: it has
no repeated keys at any depth, its options are in order and its texts up to a zero byte have none
themselves. -/
theorem Document.marshal_decode {b : Bytes} {d : Document} (h : decode? b = some d) :
    (Value.document d).Canonical ∧ ∃ b', (Value.document d).marshal = .ok b' ∧
      (b'.length ≤ maxLength → decode? b' = some d) := by
  have hCanonical := canonical_of_decode? h
  obtain ⟨⟨_, _⟩, hEncode⟩ := (Value.encode_isOk_iff _).mpr hCanonical.not_faulty
  rw [Value.encode] at hEncode
  obtain ⟨elements, hFields, _⟩ := bind_eq_ok_iff.mp hEncode
  have hMarshal := marshal_document_eq_ok_iff.mpr ⟨elements, hFields, rfl⟩
  refine ⟨hCanonical, _, hMarshal, fun hMax => ?_⟩
  have hNormal := hCanonical.normal_eq
  rw [Value.normal, Value.document.injEq] at hNormal
  rw [decode?_of_marshal hMarshal hMax, normal, hNormal]

/-- A document with a repeated key, options out of order and an array whose key is no place. -/
theorem marshal_decode_of_repeated_key :
    let b : Bytes := [35, 0, 0, 0, 0x10, 97, 0, 1, 0, 0, 0, 0x0b, 114, 0, 120, 0, 109, 105, 0,
      0x04, 108, 0, 8, 0, 0, 0, 0x0a, 55, 0, 0, 0x08, 97, 0, 1, 0]
    let d : Document :=
      [("a", .boolean true), ("r", .regex "x" "im"), ("l", .array [.null])]
    decode? b = some d ∧ (Value.document d).Canonical ∧
      ∃ b', (Value.document d).marshal = .ok b' ∧ b' ≠ b ∧ decode? b' = some d := by
  intro b d
  have hRead : decode? b = some d := by
    have hItem : decodeElements [0x0a, 55, 0] = some [("7", .null)] :=
      decodeElements_of_parts (e := ⟨"7", .scalar .null⟩) rfl decodeElements_nil decodeElements_nil
    have hFlag : decodeElements [0x08, 97, 0, 1] = some [("a", .boolean true)] :=
      decodeElements_of_parts (e := ⟨"a", .scalar (.boolean true)⟩) rfl decodeElements_nil
        decodeElements_nil
    have hList : decodeElements [0x04, 108, 0, 8, 0, 0, 0, 0x0a, 55, 0, 0, 0x08, 97, 0, 1] =
        some [("l", .array [.null]), ("a", .boolean true)] :=
      decodeElements_of_parts (e := ⟨"l", .array [0x0a, 55, 0]⟩) rfl hItem hFlag
    have hRegex : decodeElements [0x0b, 114, 0, 120, 0, 109, 105, 0, 0x04, 108, 0, 8, 0, 0, 0,
        0x0a, 55, 0, 0, 0x08, 97, 0, 1] =
        some [("r", .regex "x" "im"), ("l", .array [.null]), ("a", .boolean true)] := by
      have hSorted : sortedOptions "mi" = "im" := by simp [sortedOptions, List.mergeSort]
      rw [← hSorted]
      exact decodeElements_of_parts (e := ⟨"r", .scalar (.regex "x" (sortedOptions "mi"))⟩) rfl
        decodeElements_nil hList
    have hFields := decodeElements_of_parts (b := (b.drop 4).dropLast)
      (e := ⟨"a", .scalar (.int32 1)⟩) rfl decodeElements_nil hRegex
    exact congrArg (Option.map Document.collapse) hFields
  have hWrite : (Value.document d).marshal = .ok [28, 0, 0, 0, 0x08, 97, 0, 1,
      0x0b, 114, 0, 120, 0, 105, 109, 0, 0x04, 108, 0, 8, 0, 0, 0, 0x0a, 48, 0, 0, 0] := by
    have hOrdered : sortedOptions "im" = "im" := sortedOptions_of_ordered (by decide)
    have hRegex : (Value.regex "x" "im").encode = .ok (.regex, [120, 0, 105, 109, 0]) := by
      rw [Value.encode, hOrdered]
      rfl
    simp only [d, Value.marshal, encodeFields, hRegex]
    rfl
  obtain ⟨hCanonical, b', hMarshal, hAgain⟩ := Document.marshal_decode hRead
  rw [hWrite] at hMarshal
  cases hMarshal
  exact ⟨hRead, hCanonical, _, hWrite, by decide, hAgain (by decide)⟩

end DocumentLink.Bson
