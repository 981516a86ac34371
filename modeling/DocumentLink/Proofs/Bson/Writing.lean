import DocumentLink.Bson.Encode
import DocumentLink.Proofs.Counted
import DocumentLink.Proofs.Outcome

/-! What can be written.  A value can be written exactly if nothing in it is at fault, at any
depth: no failing value, no unsigned number above every signed one, and no zero in a key or in a
regular expression. -/

namespace DocumentLink.Bson

/-! ### Parts of a value -/

namespace Value

/-- The values that stand directly in a value. -/
def parts : Value → List Value
  | .document fields => fields.map Prod.snd
  | .codeWithScope _ scope => scope.map Prod.snd
  | .array items => items
  | _ => []

/-- The keys that stand directly in a value. -/
def keys : Value → List String
  | .document fields => fields.map Prod.fst
  | .codeWithScope _ scope => scope.map Prod.fst
  | _ => []

theorem sizeOf_part {v part : Value} (h : part ∈ v.parts) : sizeOf part < sizeOf v := by
  have hFields {fields : List (String × Value)} (hPart : part ∈ fields.map Prod.snd) :
      sizeOf part < sizeOf fields := by
    obtain ⟨⟨key, w⟩, hField, rfl⟩ := List.mem_map.mp hPart
    have := List.sizeOf_lt_of_mem hField
    rw [Prod.mk.sizeOf_spec] at this
    dsimp only
    omega
  cases v with
  | document fields =>
    have := hFields h
    rw [document.sizeOf_spec]
    omega
  | codeWithScope text scope =>
    have := hFields h
    rw [codeWithScope.sizeOf_spec]
    omega
  | array items =>
    have : sizeOf part < sizeOf items := List.sizeOf_lt_of_mem h
    rw [array.sizeOf_spec]
    omega
  | _ => cases h

/-- What a value inherits from its parts holds of all values. -/
theorem induction {motive : Value → Prop}
    (step : ∀ v : Value, (∀ part ∈ v.parts, motive part) → motive v) (v : Value) : motive v :=
  step v fun part _ => induction step part
termination_by sizeOf v
decreasing_by exact sizeOf_part (by assumption)

/-- Something that stands directly in a value cannot be written. -/
inductive FaultyHere : Value → Prop
  | failing (message : String) : FaultyHere (.failing message)
  | unsigned {n : UInt64} (large : Int64.maxValue.toInt < n.toNat) : FaultyHere (.unsigned n)
  | pattern {pattern options : String} (zero : Char.ofNat 0 ∈ pattern.toList) :
      FaultyHere (.regex pattern options)
  | options {pattern options : String} (zero : Char.ofNat 0 ∈ options.toList) :
      FaultyHere (.regex pattern options)
  | key {v : Value} {key : String} (member : key ∈ v.keys) (zero : Char.ofNat 0 ∈ key.toList) :
      FaultyHere v

/-- Something in a value cannot be written, at any depth. -/
inductive Faulty : Value → Prop
  | here {v : Value} (faulty : v.FaultyHere) : Faulty v
  | part {v part : Value} (member : part ∈ v.parts) (faulty : Faulty part) : Faulty v

end Value

/-! ### Texts, fields and items -/

theorem encodeTerminated_eq_ok_iff {s : String} {b : Bytes} :
    encodeTerminated s = .ok b ↔ Char.ofNat 0 ∉ s.toList ∧ b = Field.terminated s := by
  unfold encodeTerminated
  rw [← Field.zero_mem_utf8_iff]
  split
  next hZero =>
    exact ⟨nofun, fun h => absurd hZero h.1⟩
  next hZero =>
    rw [Except.ok.injEq, eq_comm]
    exact ⟨fun h => ⟨hZero, h⟩, fun h => h.2⟩

theorem encodeFields_cons_eq_ok_iff {key : String} {v : Value} {rest : List (String × Value)}
    {b : Bytes} : encodeFields ((key, v) :: rest) = .ok b ↔
      Char.ofNat 0 ∉ key.toList ∧ ∃ kind payload elements, v.encode = .ok (kind, payload) ∧
        encodeFields rest = .ok elements ∧
        b = kind.tag :: Field.terminated key ++ payload ++ elements := by
  rw [encodeFields]
  simp only [bind_eq_ok_iff, encodeTerminated_eq_ok_iff, Prod.exists]
  constructor
  · rintro ⟨_, ⟨hZero, rfl⟩, kind, payload, hValue, elements, hRest, ⟨⟩⟩
    exact ⟨hZero, kind, payload, elements, hValue, hRest, rfl⟩
  · rintro ⟨hZero, kind, payload, elements, hValue, hRest, rfl⟩
    exact ⟨_, ⟨hZero, rfl⟩, kind, payload, hValue, elements, hRest, rfl⟩

theorem encodeItems_cons_eq_ok_iff {i : Nat} {v : Value} {rest : List Value} {b : Bytes} :
    encodeItems i (v :: rest) = .ok b ↔ ∃ kind payload elements, v.encode = .ok (kind, payload) ∧
      encodeItems (i + 1) rest = .ok elements ∧
      b = kind.tag :: Field.terminated i.repr ++ payload ++ elements := by
  rw [encodeItems]
  simp only [bind_eq_ok_iff, Prod.exists]
  constructor
  · rintro ⟨kind, payload, hValue, elements, hRest, ⟨⟩⟩
    exact ⟨kind, payload, elements, hValue, hRest, rfl⟩
  · rintro ⟨kind, payload, elements, hValue, hRest, rfl⟩
    exact ⟨kind, payload, hValue, elements, hRest, rfl⟩

theorem encodeFields_isOk_iff {fields : List (String × Value)} :
    (∃ b, encodeFields fields = .ok b) ↔
      (∀ key ∈ fields.map Prod.fst, Char.ofNat 0 ∉ key.toList) ∧
        ∀ v ∈ fields.map Prod.snd, ∃ r, v.encode = .ok r := by
  induction fields with
  | nil =>
    rw [encodeFields]
    exact ⟨fun _ => ⟨nofun, nofun⟩, fun _ => ⟨[], rfl⟩⟩
  | cons field rest ih =>
    obtain ⟨key, v⟩ := field
    simp only [encodeFields_cons_eq_ok_iff, List.map_cons, List.forall_mem_cons]
    constructor
    · rintro ⟨_, hZero, kind, payload, elements, hValue, hRest, rfl⟩
      obtain ⟨hKeys, hValues⟩ := ih.mp ⟨elements, hRest⟩
      exact ⟨⟨hZero, hKeys⟩, ⟨_, hValue⟩, hValues⟩
    · rintro ⟨⟨hZero, hKeys⟩, ⟨⟨kind, payload⟩, hValue⟩, hValues⟩
      obtain ⟨elements, hRest⟩ := ih.mpr ⟨hKeys, hValues⟩
      exact ⟨_, hZero, kind, payload, elements, hValue, hRest, rfl⟩

theorem encodeItems_isOk_iff {i : Nat} {items : List Value} :
    (∃ b, encodeItems i items = .ok b) ↔ ∀ v ∈ items, ∃ r, v.encode = .ok r := by
  induction items generalizing i with
  | nil =>
    rw [encodeItems]
    exact ⟨fun _ => nofun, fun _ => ⟨[], rfl⟩⟩
  | cons v rest ih =>
    rw [List.forall_mem_cons, ← @ih (i + 1)]
    simp only [encodeItems_cons_eq_ok_iff]
    constructor
    · rintro ⟨_, kind, payload, elements, hValue, hRest, rfl⟩
      exact ⟨⟨_, hValue⟩, elements, hRest⟩
    · rintro ⟨⟨⟨kind, payload⟩, hValue⟩, elements, hRest⟩
      exact ⟨_, kind, payload, elements, hValue, hRest, rfl⟩

theorem zero_mem_sortedOptions {options : String} :
    Char.ofNat 0 ∈ (sortedOptions options).toList ↔ Char.ofNat 0 ∈ options.toList := by
  rw [sortedOptions, String.toList_ofList, List.mem_mergeSort]

/-! ### Values -/

namespace Value

theorem not_faultyHere_unsigned_iff {n : UInt64} :
    ¬(unsigned n).FaultyHere ↔ n ≤ Int64.maxValue.toUInt64 := by
  have hLarge : Int64.maxValue.toInt < n.toNat ↔ ¬n ≤ Int64.maxValue.toUInt64 := by
    rw [UInt64.le_iff_toNat_le, Nat.not_le]
    exact Int.ofNat_lt
  constructor
  · intro h
    by_contra hNot
    exact h (.unsigned (hLarge.mpr hNot))
  · intro hLe hFaulty
    cases hFaulty with
    | unsigned large => exact hLarge.mp large hLe
    | key hKey _ => cases hKey

theorem not_faultyHere_regex_iff {pattern options : String} :
    ¬(regex pattern options).FaultyHere ↔
      Char.ofNat 0 ∉ pattern.toList ∧ Char.ofNat 0 ∉ options.toList := by
  constructor
  · intro h
    exact ⟨fun hZero => h (.pattern hZero), fun hZero => h (.options hZero)⟩
  · rintro ⟨hPattern, hOptions⟩ hFaulty
    cases hFaulty with
    | pattern hZero => exact hPattern hZero
    | options hZero => exact hOptions hZero
    | key hKey _ => cases hKey

theorem not_faultyHere_document_iff {fields : List (String × Value)} :
    ¬(document fields).FaultyHere ↔ ∀ key ∈ fields.map Prod.fst, Char.ofNat 0 ∉ key.toList := by
  constructor
  · intro h key hKey hZero
    exact h (.key hKey hZero)
  · intro h hFaulty
    cases hFaulty with
    | key hKey hZero => exact h _ hKey hZero

theorem not_faultyHere_codeWithScope_iff {text : String} {scope : List (String × Value)} :
    ¬(codeWithScope text scope).FaultyHere ↔
      ∀ key ∈ scope.map Prod.fst, Char.ofNat 0 ∉ key.toList := by
  constructor
  · intro h key hKey hZero
    exact h (.key hKey hZero)
  · intro h hFaulty
    cases hFaulty with
    | key hKey hZero => exact h _ hKey hZero

/-- A value can be written exactly if nothing directly in it is at fault and its parts can. -/
theorem encode_isOk_iff_parts (v : Value) :
    (∃ r, v.encode = .ok r) ↔ ¬v.FaultyHere ∧ ∀ part ∈ v.parts, ∃ r, part.encode = .ok r := by
  cases v with
  | document fields =>
    rw [encode, exists_bind_pure_eq_ok_iff, encodeFields_isOk_iff, not_faultyHere_document_iff]
    rfl
  | codeWithScope text scope =>
    rw [encode, exists_bind_pure_eq_ok_iff, encodeFields_isOk_iff, not_faultyHere_codeWithScope_iff]
    rfl
  | array items =>
    rw [encode, exists_bind_pure_eq_ok_iff, encodeItems_isOk_iff]
    refine ⟨fun h => ⟨fun hFaulty => ?_, h⟩, fun h => h.2⟩
    cases hFaulty with
    | key hKey _ => cases hKey
  | failing message =>
    rw [encode]
    exact ⟨nofun, fun h => absurd (.failing message) h.1⟩
  | unsigned n =>
    rw [encode, not_faultyHere_unsigned_iff]
    split
    next hLe => exact ⟨fun _ => ⟨hLe, nofun⟩, fun _ => ⟨_, rfl⟩⟩
    next hNot => exact ⟨nofun, fun h => absurd h.1 hNot⟩
  | regex pattern options =>
    rw [encode, not_faultyHere_regex_iff]
    simp only [bind_eq_ok_iff, encodeTerminated_eq_ok_iff, zero_mem_sortedOptions]
    constructor
    · rintro ⟨_, _, ⟨hPattern, _⟩, _, ⟨hOptions, _⟩, _⟩
      exact ⟨⟨hPattern, hOptions⟩, nofun⟩
    · rintro ⟨⟨hPattern, hOptions⟩, _⟩
      exact ⟨_, _, ⟨hPattern, rfl⟩, _, ⟨hOptions, rfl⟩, rfl⟩
  | _ =>
    rw [encode]
    refine ⟨fun _ => ⟨fun hFaulty => ?_, nofun⟩, fun _ => ⟨_, rfl⟩⟩
    cases hFaulty with
    | key hKey _ => cases hKey

/-- A value can be written exactly if nothing in it is at fault. -/
theorem encode_isOk_iff (v : Value) : (∃ r, v.encode = .ok r) ↔ ¬v.Faulty := by
  induction v using Value.induction with
  | step v ih =>
    rw [encode_isOk_iff_parts]
    constructor
    · rintro ⟨hHere, hParts⟩ (hFaulty | ⟨hPart, hFaulty⟩)
      · exact hHere hFaulty
      · exact (ih _ hPart).mp (hParts _ hPart) hFaulty
    · intro hSound
      refine ⟨fun hFaulty => hSound (.here hFaulty), fun part hPart => ?_⟩
      exact (ih part hPart).mpr fun hFaulty => hSound (.part hPart hFaulty)

theorem framed_of_marshal {v : Value} {b : Bytes} (h : v.marshal = .ok b) :
    ∃ elements, b = Field.framed elements := by
  unfold marshal at h
  split at h
  next =>
    obtain ⟨elements, _, rfl⟩ := map_eq_ok_iff.mp h
    exact ⟨elements, rfl⟩
  next => cases h
  next => cases h
  next => cases h
  next =>
    obtain ⟨_, _, ⟨⟩⟩ := bind_eq_ok_iff.mp h

theorem selfDelimiting_of_marshal {v : Value} {b : Bytes} (h : v.marshal = .ok b)
    (hMax : b.length ≤ maxLength) : SelfDelimiting 5 b := by
  obtain ⟨elements, rfl⟩ := framed_of_marshal h
  exact Field.selfDelimiting_framed hMax

end Value

end DocumentLink.Bson
