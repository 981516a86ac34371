import DocumentLink.Bson.Value

/-! Normal forms of values.  Writing and reading a document loses three things: of a repeated key
all values but the last, the order of the options of a regular expression, and that a number was
unsigned.  `settled` says what becomes of repeated keys without going through the fields one
after the other, as `collapse` does. -/

namespace DocumentLink.Bson

/-! ### Repeated keys -/

namespace Document

variable {α : Type}

/-- The fields under all keys but one. -/
def without (key : String) (fields : List (String × α)) : List (String × α) :=
  fields.filter fun field => field.1 != key

/-- The value that a key is given last. -/
def lastGiven? (key : String) (fields : List (String × α)) : Option α :=
  fields.reverse.lookup key

/-- Each key at its first place, with the value that it is given last. -/
def settled : List (String × α) → List (String × α)
  | [] => []
  | (key, v) :: rest => (key, (lastGiven? key rest).getD v) :: without key (settled rest)

theorem lastGiven?_cons (key k : String) (v : α) (rest : List (String × α)) :
    lastGiven? key ((k, v) :: rest) =
      (lastGiven? key rest).or (if k = key then some v else none) := by
  unfold lastGiven?
  rw [List.reverse_cons, List.lookup_append]
  by_cases hKey : k = key
  · subst hKey
    rw [List.lookup_cons_self, if_pos rfl]
  · rw [List.lookup_cons, if_neg hKey, beq_false_of_ne (Ne.symm hKey)]
    rfl

theorem without_cons_self (key : String) (v : α) (rest : List (String × α)) :
    without key ((key, v) :: rest) = without key rest :=
  List.filter_cons_of_neg (by simp)

theorem without_cons_of_ne {key k : String} (h : k ≠ key) (v : α) (rest : List (String × α)) :
    without key ((k, v) :: rest) = (k, v) :: without key rest :=
  List.filter_cons_of_pos (bne_iff_ne.mpr h)

theorem without_put_self (key : String) (v : α) (doc : List (String × α)) :
    without key (put doc key v) = without key doc := by
  induction doc with
  | nil => exact without_cons_self key v []
  | cons field rest ih =>
    obtain ⟨k, old⟩ := field
    rw [put]
    split
    next hKey =>
      subst hKey
      rw [without_cons_self, without_cons_self]
    next hKey => rw [without_cons_of_ne hKey, without_cons_of_ne hKey, ih]

theorem without_put_of_ne {key k : String} (h : k ≠ key) (v : α) (doc : List (String × α)) :
    without key (put doc k v) = put (without key doc) k v := by
  induction doc with
  | nil => exact without_cons_of_ne h v []
  | cons field rest ih =>
    obtain ⟨k', old⟩ := field
    rw [put]
    by_cases hKey : k' = key
    · subst hKey
      rw [if_neg (Ne.symm h), without_cons_self, without_cons_self, ih]
    · split
      next hSame => rw [without_cons_of_ne hKey, without_cons_of_ne hKey, put, if_pos hSame]
      next hSame =>
        rw [without_cons_of_ne hKey, without_cons_of_ne hKey, put, if_neg hSame, ih]

/-- Giving keys their values one field after the other. -/
def putAll (doc fields : List (String × α)) : List (String × α) :=
  fields.foldl (fun doc field => put doc field.1 field.2) doc

theorem without_putAll (key : String) (doc fields : List (String × α)) :
    without key (putAll doc fields) = putAll (without key doc) (without key fields) := by
  unfold putAll
  induction fields generalizing doc with
  | nil => rfl
  | cons field rest ih =>
    obtain ⟨k, v⟩ := field
    rw [List.foldl_cons, ih]
    dsimp only
    by_cases hKey : k = key
    · subst hKey
      rw [without_put_self, without_cons_self]
    · rw [without_put_of_ne hKey, without_cons_of_ne hKey, List.foldl_cons]

/-- A key that is there already keeps its place and gets the last value; all other fields go into
what stands behind it. -/
theorem putAll_cons (key : String) (v : α) (doc fields : List (String × α)) :
    putAll ((key, v) :: doc) fields =
      (key, (lastGiven? key fields).getD v) :: putAll doc (without key fields) := by
  unfold putAll
  induction fields generalizing v doc with
  | nil => rfl
  | cons field rest ih =>
    obtain ⟨k, w⟩ := field
    rw [List.foldl_cons, put, lastGiven?_cons]
    dsimp only
    by_cases hKey : key = k
    · subst hKey
      rw [if_pos rfl, if_pos rfl, ih, without_cons_self]
      cases lastGiven? key rest <;> rfl
    · rw [if_neg hKey, if_neg (Ne.symm hKey), ih, Option.or_none,
        without_cons_of_ne (Ne.symm hKey), List.foldl_cons]

theorem collapse_eq_settled (fields : List (String × α)) : collapse fields = settled fields := by
  induction fields with
  | nil => rfl
  | cons field rest ih =>
    obtain ⟨key, v⟩ := field
    calc collapse ((key, v) :: rest)
        = putAll [(key, v)] rest := rfl
      _ = (key, (lastGiven? key rest).getD v) :: putAll (without key []) (without key rest) :=
        putAll_cons key v [] rest
      _ = (key, (lastGiven? key rest).getD v) :: without key (collapse rest) := by
        rw [← without_putAll]
        rfl
      _ = settled ((key, v) :: rest) := by rw [ih, settled]

example : settled [("a", 1), ("b", 2), ("a", 3)] = [("a", 3), ("b", 2)] := rfl

end Document

/-! ### Normal forms -/

mutual

/-- The value that comes back when a value is written and read: of a repeated key only the value
given last stays, the options of a regular expression are in order, and unsigned numbers are
signed. -/
def Value.normal : Value → Value
  | .unsigned n => .int64 n.toInt64
  | .regex pattern options => .regex pattern (sortedOptions options)
  | .document fields => .document (Document.settled (normalFields fields))
  | .array items => .array (normalItems items)
  | .codeWithScope text scope => .codeWithScope text (Document.settled (normalFields scope))
  | v => v

def normalFields : List (String × Value) → List (String × Value)
  | [] => []
  | (key, v) :: rest => (key, v.normal) :: normalFields rest

def normalItems : List Value → List Value
  | [] => []
  | v :: rest => v.normal :: normalItems rest

end

def Document.normal (doc : Document) : Document := settled (normalFields doc)

theorem ordered_sortedOptions (options : String) :
    (sortedOptions options).toList.Pairwise fun a b => a ≤ b := by
  have hSorted : (options.toList.mergeSort (· ≤ ·)).Pairwise fun a b => decide (a ≤ b) :=
    List.pairwise_mergeSort (fun a b c => by simpa using Char.le_trans)
      (fun a b => by simpa using Char.le_total a b) options.toList
  rw [sortedOptions, String.toList_ofList]
  exact hSorted.imp fun hLe => of_decide_eq_true hLe

theorem sortedOptions_of_ordered {options : String}
    (h : options.toList.Pairwise fun a b => a ≤ b) : sortedOptions options = options := by
  have hSorted : options.toList.Pairwise fun a b => decide (a ≤ b) :=
    h.imp fun hLe => decide_eq_true hLe
  rw [sortedOptions, List.mergeSort_of_pairwise hSorted, String.ofList_toList]

theorem sortedOptions_sortedOptions (options : String) :
    sortedOptions (sortedOptions options) = sortedOptions options :=
  sortedOptions_of_ordered (ordered_sortedOptions options)

end DocumentLink.Bson
