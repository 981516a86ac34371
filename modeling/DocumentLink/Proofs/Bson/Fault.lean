import DocumentLink.Proofs.Bson.Writing

/-! Which fault decides when a value has several.  A node is a value together with its key; the
nodes of a value are reached by paths of indices.  In the order of words a path comes before those
that lead on from it, and all of these before the path to the next sibling: so the first path to a
fault leads to the one that is met first when elements are written depth first. -/

namespace DocumentLink.Bson

/-- A value where it stands: under a key, or as an item of an array or on its own. -/
structure Node where
  key : Option String
  value : Value

/-- What stands directly in a value, in order. -/
def Value.nodes : Value → List Node
  | .document fields => fields.map fun (key, v) => ⟨some key, v⟩
  | .codeWithScope _ scope => scope.map fun (key, v) => ⟨some key, v⟩
  | .array items => items.map fun v => ⟨none, v⟩
  | _ => []

/-- The fault of a text that is written up to a zero byte. -/
def zeroFault? (s : String) : Option EncodeError :=
  if Char.ofNat 0 ∈ s.toList then some (.embeddedZero s) else none

/-- Why a value can be written nowhere at all. -/
def Value.unwritable? : Value → Option EncodeError
  | .failing message => some (.refused message)
  | .unsigned n => if Int64.maxValue.toInt < n.toNat then some (.unsignedTooLarge n) else none
  | _ => none

/-- The fault of a value itself, whatever stands in it. -/
def Value.fault? : Value → Option EncodeError
  | .regex pattern options => (zeroFault? pattern).or (zeroFault? (sortedOptions options))
  | v => v.unwritable?

namespace Node

/-- The fault of a node itself: its key comes before its value. -/
def fault? (n : Node) : Option EncodeError := (n.key.bind zeroFault?).or n.value.fault?

/-- The node to which a path of indices leads. -/
def at? : Node → List Nat → Option Node
  | n, [] => some n
  | n, i :: path => (n.value.nodes[i]?).bind fun m => m.at? path

/-- No path leads to a fault. -/
def Sound (root : Node) : Prop := ∀ path n, root.at? path = some n → n.fault? = none

/-- The first path that leads to a fault leads to the fault `e`. -/
def FirstFault (root : Node) (e : EncodeError) : Prop :=
  ∃ path n, root.at? path = some n ∧ n.fault? = some e ∧
    ∀ earlier < path, ∀ m, root.at? earlier = some m → m.fault? = none

/-- How it fails to write a node. -/
def failure? (n : Node) : Option EncodeError :=
  (n.key.bind zeroFault?).or (DocumentLink.failure? n.value.encode)

end Node

/-! ### One level -/

theorem failure?_encodeTerminated (s : String) : failure? (encodeTerminated s) = zeroFault? s := by
  unfold encodeTerminated zeroFault?
  simp only [Field.zero_mem_utf8_iff]
  split <;> rfl

theorem failure?_encodeFields (fields : List (String × Value)) :
    failure? (encodeFields fields) =
      (fields.map fun (key, v) => Node.mk (some key) v).findSome? Node.failure? := by
  induction fields with
  | nil => rw [encodeFields]; rfl
  | cons field rest ih =>
    obtain ⟨key, v⟩ := field
    rw [encodeFields, failure?_bind fun _ => failure?_bind fun _ => failure?_bind_pure _ _,
      failure?_encodeTerminated, List.map_cons, findSome?_cons_eq_or, ← ih, ← Option.or_assoc]
    rfl

theorem failure?_encodeItems (i : Nat) (items : List Value) :
    failure? (encodeItems i items) =
      (items.map fun v => Node.mk none v).findSome? Node.failure? := by
  induction items generalizing i with
  | nil => rw [encodeItems]; rfl
  | cons v rest ih =>
    rw [encodeItems, failure?_bind fun _ => failure?_bind_pure _ _, List.map_cons,
      findSome?_cons_eq_or, ← ih (i + 1)]
    rfl

theorem Value.encode_unsigned (n : UInt64) : (unsigned n).encode =
    match (unsigned n).unwritable? with
    | some e => .error e
    | none => .ok (.int64, Bytes.ofUInt64 n) := by
  have hFits : n ≤ Int64.maxValue.toUInt64 ↔ ¬ Int64.maxValue.toInt < n.toNat := by
    rw [UInt64.le_iff_toNat_le, ← Nat.not_lt]
    exact not_congr Int.ofNat_lt.symm
  rw [encode, unwritable?]
  by_cases hLarge : Int64.maxValue.toInt < n.toNat
  · rw [if_pos hLarge, if_neg fun hLe => hFits.mp hLe hLarge]
  · rw [if_neg hLarge, if_pos (hFits.mpr hLarge)]

/-- A value fails for a fault of its own, or else as the first node in it that fails. -/
theorem failure?_encode (v : Value) :
    failure? v.encode = v.fault?.or (v.nodes.findSome? Node.failure?) := by
  cases v with
  | document fields =>
    rw [Value.encode, failure?_bind_pure, failure?_encodeFields]
    rfl
  | codeWithScope text scope =>
    rw [Value.encode, failure?_bind_pure, failure?_encodeFields]
    rfl
  | array items =>
    rw [Value.encode, failure?_bind_pure, failure?_encodeItems]
    rfl
  | regex pattern options =>
    rw [Value.encode, failure?_bind fun _ => failure?_bind_pure _ _, failure?_encodeTerminated,
      failure?_encodeTerminated]
    exact (Option.or_none).symm
  | unsigned n =>
    rw [Value.encode_unsigned]
    show _ = (Value.unsigned n).unwritable?.or none
    cases (Value.unsigned n).unwritable? <;> rfl
  | _ =>
    rw [Value.encode]
    rfl

/-! ### All levels -/

namespace Node

theorem failure?_eq (n : Node) :
    n.failure? = n.fault?.or (n.value.nodes.findSome? Node.failure?) := by
  rw [failure?, failure?_encode, fault?, Option.or_assoc]

theorem mem_parts_of_mem_nodes {v : Value} {n : Node} (h : n ∈ v.nodes) : n.value ∈ v.parts := by
  cases v with
  | document fields | codeWithScope _ fields =>
    obtain ⟨field, hMem, rfl⟩ := List.mem_map.mp h
    exact List.mem_map_of_mem hMem
  | array items =>
    obtain ⟨v, hMem, rfl⟩ := List.mem_map.mp h
    exact hMem
  | _ => cases h

/-- What holds of a node as soon as it holds of the nodes in it holds of all nodes. -/
theorem induction {motive : Node → Prop}
    (step : ∀ n : Node, (∀ m ∈ n.value.nodes, motive m) → motive n) (n : Node) : motive n := by
  obtain ⟨key, v⟩ := n
  induction v using Value.induction generalizing key with
  | step v ih => exact step ⟨key, v⟩ fun m hMem => ih m.value (mem_parts_of_mem_nodes hMem) m.key

theorem at?_cons_eq_some_iff {n m : Node} {i : Nat} {path : List Nat} :
    n.at? (i :: path) = some m ↔ ∃ child, n.value.nodes[i]? = some child ∧
      child.at? path = some m := by
  rw [at?, Option.bind_eq_some_iff]

theorem sound_iff {n : Node} :
    n.Sound ↔ n.fault? = none ∧ ∀ child ∈ n.value.nodes, child.Sound := by
  constructor
  · intro hSound
    refine ⟨hSound [] n rfl, fun child hMem path m hAt => ?_⟩
    obtain ⟨i, hChild⟩ := List.mem_iff_getElem?.mp hMem
    exact hSound (i :: path) m (at?_cons_eq_some_iff.mpr ⟨child, hChild, hAt⟩)
  · rintro ⟨hHere, hNodes⟩ (_ | ⟨i, path⟩) m hAt
    · cases hAt
      exact hHere
    · obtain ⟨child, hChild, hAt⟩ := at?_cons_eq_some_iff.mp hAt
      exact hNodes child (List.mem_of_getElem? hChild) path m hAt

variable {n child : Node} {e : EncodeError} {before after : List Node}

theorem FirstFault.here (h : n.fault? = some e) : n.FirstFault e :=
  ⟨[], n, rfl, h, fun earlier hLess => absurd hLess (List.not_lt_nil earlier)⟩

theorem FirstFault.inside (hHere : n.fault? = none)
    (hNodes : n.value.nodes = before ++ child :: after)
    (hBefore : ∀ sibling ∈ before, sibling.Sound) (hChild : child.FirstFault e) :
    n.FirstFault e := by
  have hPlace : n.value.nodes[before.length]? = some child := by
    rw [hNodes, List.getElem?_append_right (Nat.le_refl _), Nat.sub_self]
    rfl
  obtain ⟨path, m, hAt, hFault, hFirst⟩ := hChild
  refine ⟨before.length :: path, m, at?_cons_eq_some_iff.mpr ⟨child, hPlace, hAt⟩, hFault, ?_⟩
  rintro (_ | ⟨i, earlier⟩) hLess other hOther
  · cases hOther
    exact hHere
  · obtain ⟨sibling, hSibling, hOther⟩ := at?_cons_eq_some_iff.mp hOther
    rcases List.cons_lt_cons_iff.mp hLess with hLeft | ⟨rfl, hLater⟩
    · rw [hNodes, List.getElem?_append_left hLeft] at hSibling
      exact hBefore sibling (List.mem_of_getElem? hSibling) earlier other hOther
    · rw [hPlace] at hSibling
      cases hSibling
      exact hFirst earlier hLater other hOther

/-- The first fault is the one of the node itself, or else the first one in the first node in it
that has any. -/
theorem firstFault_iff : n.FirstFault e ↔ n.fault? = some e ∨ n.fault? = none ∧
    ∃ before child after, n.value.nodes = before ++ child :: after ∧ child.FirstFault e ∧
      ∀ sibling ∈ before, sibling.Sound := by
  constructor
  · rintro ⟨_ | ⟨i, path⟩, m, hAt, hFault, hFirst⟩
    · cases hAt
      exact .inl hFault
    · obtain ⟨child, hChild, hAt⟩ := at?_cons_eq_some_iff.mp hAt
      obtain ⟨hBound, rfl⟩ := List.getElem?_eq_some_iff.mp hChild
      refine .inr ⟨hFirst [] (List.nil_lt_cons i path) n rfl, n.value.nodes.take i,
        n.value.nodes[i], n.value.nodes.drop (i + 1), ?_, ⟨path, m, hAt, hFault, ?_⟩, ?_⟩
      · rw [List.getElem_cons_drop, List.take_append_drop]
      · intro earlier hLess other hOther
        exact hFirst (i :: earlier) (List.cons_lt_cons_iff.mpr (.inr ⟨rfl, hLess⟩)) other
          (at?_cons_eq_some_iff.mpr ⟨_, hChild, hOther⟩)
      · intro sibling hMem earlier other hOther
        obtain ⟨j, hj, hSibling⟩ := List.mem_take_iff_getElem.mp hMem
        have hLess : j < i := Nat.lt_of_lt_of_le hj (Nat.min_le_left _ _)
        have hPlace : n.value.nodes[j]? = some sibling :=
          List.getElem?_eq_some_iff.mpr ⟨_, hSibling⟩
        exact hFirst (j :: earlier) (List.cons_lt_cons_iff.mpr (.inl hLess)) other
          (at?_cons_eq_some_iff.mpr ⟨sibling, hPlace, hOther⟩)
  · rintro (hHere | ⟨hHere, before, child, after, hNodes, hChild, hBefore⟩)
    · exact .here hHere
    · exact .inside hHere hNodes hBefore hChild

theorem failure?_eq_none_iff (n : Node) : n.failure? = none ↔ n.Sound := by
  induction n using Node.induction with
  | step n ih =>
    rw [failure?_eq, Option.or_eq_none_iff, List.findSome?_eq_none_iff, sound_iff]
    exact and_congr_right fun _ => forall₂_congr ih

/-- Writing a node fails for the fault that comes first. -/
theorem failure?_eq_some_iff (n : Node) (e : EncodeError) :
    n.failure? = some e ↔ n.FirstFault e := by
  induction n using Node.induction with
  | step n ih =>
    rw [failure?_eq, Option.or_eq_some_iff, List.findSome?_eq_some_iff, firstFault_iff]
    have hInside {before after : List Node} {child : Node}
        (hNodes : n.value.nodes = before ++ child :: after) :
        (child.failure? = some e ∧ ∀ sibling ∈ before, sibling.failure? = none) ↔
          child.FirstFault e ∧ ∀ sibling ∈ before, sibling.Sound := by
      have hMem : child ∈ n.value.nodes := by
        rw [hNodes]
        exact List.mem_append_cons_self
      exact and_congr (ih child hMem)
        (forall₂_congr fun sibling _ => failure?_eq_none_iff sibling)
    constructor
    · rintro (hHere | ⟨hHere, before, child, after, hNodes, hFails⟩)
      · exact .inl hHere
      · exact .inr ⟨hHere, before, child, after, hNodes, (hInside hNodes).mp hFails⟩
    · rintro (hHere | ⟨hHere, before, child, after, hNodes, hFirst⟩)
      · exact .inl hHere
      · exact .inr ⟨hHere, before, child, after, hNodes, (hInside hNodes).mpr hFirst⟩

end Node

/-! ### Values that stand on their own -/

namespace Value

/-- The kind under which a value would be written. -/
def kind? : Value → Option Kind
  | .null => some .null
  | .undefined => some .undefined
  | .minKey => some .minKey
  | .maxKey => some .maxKey
  | .boolean _ => some .boolean
  | .int32 _ => some .int32
  | .int64 _ | .unsigned _ => some .int64
  | .double _ => some .double
  | .date _ => some .date
  | .timestamp .. => some .timestamp
  | .objectId _ => some .objectId
  | .decimal128 _ => some .decimal128
  | .string _ => some .string
  | .code _ => some .code
  | .symbol _ => some .symbol
  | .regex .. => some .regex
  | .binary .. => some .binary
  | .document _ => some .document
  | .array _ => some .array
  | .codeWithScope .. => some .codeWithScope
  | .failing _ => none

/-- Why a value is refused that stands on its own: a document for the first fault in it, and
anything else for not being a document, unless it can be written nowhere at all. -/
inductive Refused : Value → EncodeError → Prop
  | document {fields : List (String × Value)} {e : EncodeError}
      (first : Node.FirstFault ⟨none, .document fields⟩ e) : Refused (.document fields) e
  | unwritable {v : Value} {e : EncodeError} (fault : v.unwritable? = some e) : Refused v e
  | other {v : Value} {kind : Kind} (writable : v.unwritable? = none) (known : v.kind? = some kind)
      (notDocument : kind ≠ .document) : Refused v (.notDocument kind)

theorem refused_iff_of_kind {v : Value} {kind : Kind} {e : EncodeError}
    (hKind : v.kind? = some kind) (hWritable : v.unwritable? = none) (hOther : kind ≠ .document) :
    v.Refused e ↔ .notDocument kind = e := by
  constructor
  · rintro (_ | hFault | ⟨_, hKnown, _⟩)
    · cases hKind
      exact absurd rfl hOther
    · rw [hWritable] at hFault
      cases hFault
    · rw [hKind] at hKnown
      cases hKnown
      rfl
  · rintro rfl
    exact .other hWritable hKind hOther

theorem refused_iff_of_unwritable {v : Value} {fault e : EncodeError}
    (h : v.unwritable? = some fault) : v.Refused e ↔ fault = e := by
  constructor
  · rintro (_ | hFault | ⟨hNone, _, _⟩)
    · cases h
    · rw [h] at hFault
      exact Option.some.inj hFault
    · rw [h] at hNone
      cases hNone
  · rintro rfl
    exact .unwritable h

theorem refused_document_iff {fields : List (String × Value)} {e : EncodeError} :
    (document fields).Refused e ↔ Node.FirstFault ⟨none, .document fields⟩ e := by
  constructor
  · rintro (hFirst | hFault | ⟨_, hKnown, hOther⟩)
    · exact hFirst
    · cases hFault
    · cases hKnown
      exact absurd rfl hOther
  · exact .document

theorem error_eq_iff {a e : EncodeError} : (Except.error a : Except EncodeError Bytes) = .error e ↔
    a = e := by
  rw [Except.error.injEq]

/-- A value that stands on its own is written unless it is refused, and then it fails for the reason
for which it is. -/
theorem marshal_eq_error_iff (v : Value) (e : EncodeError) :
    v.marshal = .error e ↔ v.Refused e := by
  cases v with
  | document fields =>
    rw [refused_document_iff, ← Node.failure?_eq_some_iff, marshal,
      ← DocumentLink.failure?_eq_some_iff, failure?_map, failure?_encodeFields]
    show _ ↔ failure? (document fields).encode = some e
    rw [failure?_encode]
    rfl
  | unsigned n =>
    have hMarshal : (unsigned n).marshal =
        (unsigned n).encode.bind fun r => .error (.notDocument r.1) := rfl
    rw [hMarshal, encode_unsigned]
    cases hFault : (unsigned n).unwritable? with
    | some fault => exact error_eq_iff.trans (refused_iff_of_unwritable hFault).symm
    | none =>
      have hKind : Kind.int64 ≠ .document := by decide
      exact error_eq_iff.trans (refused_iff_of_kind rfl hFault hKind).symm
  | failing message => exact error_eq_iff.trans (refused_iff_of_unwritable rfl).symm
  | _ => exact error_eq_iff.trans (refused_iff_of_kind rfl rfl (by decide)).symm

/-! A fault deep in the first element comes before one in the second key, and the key before the
value under it. -/

example : (document [("a", .array [.document [("b", .failing "deep")]]),
    ("c\x00", .failing "shallow")]).marshal = .error (.refused "deep") := by cbv

example : (document [("a", .null), ("c\x00", .failing "shallow")]).marshal =
    .error (.embeddedZero "c\x00") := by cbv

end Value

end DocumentLink.Bson
