import DocumentLink.Connection.Correlator
import Mathlib.Data.List.Nodup
import Mathlib.Data.List.Perm.Subperm
import Mathlib.Data.Nat.Find

/-! The ids that a correlator gives out.  `Sound` is the invariant of its map: no id has two
requests and none has zero.  While an id is free the search for the next one finds the first free
id after the counter, so giving out an id keeps the map sound, and taking an id out hands over the
handler that was kept under it and no other. -/

namespace DocumentLink.Correlator

variable {H : Type}

def ids (c : Correlator H) : List UInt32 := c.pending.map Prod.fst

def waiting (c : Correlator H) : List H := c.pending.map Prod.snd

/-- Every request in flight has an id of its own, and none has zero. -/
structure Sound (c : Correlator H) : Prop where
  distinct : c.ids.Nodup
  nonzero : 0 ∉ c.ids

theorem Sound.empty (lastId : UInt32) : Sound ({ lastId } : Correlator H) :=
  ⟨List.nodup_nil, by simp [ids]⟩

theorem isFree_iff {c : Correlator H} {id : UInt32} : c.isFree id = true ↔ id ≠ 0 ∧ id ∉ c.ids := by
  simp only [isFree, ids, Bool.and_eq_true, bne_iff_ne, List.all_eq_true, ne_eq, List.mem_map,
    not_exists, not_and]

/-! ### The round of ids -/

theorem add_one_add_ofNat (id : UInt32) (k : Nat) :
    id + 1 + UInt32.ofNat k = id + UInt32.ofNat (k + 1) := by
  rw [UInt32.ofNat_add k 1, UInt32.add_assoc, UInt32.add_comm 1]
  rfl

/-- How often the counter goes on by one from `id` before it stands on `other`.  It comes back to
`id` itself after a whole round. -/
def distance (id other : UInt32) : Nat := (other - id - 1).toNat + 1

theorem add_distance (id other : UInt32) : id + UInt32.ofNat (distance id other) = other := by
  rw [distance, ← add_one_add_ofNat, UInt32.ofNat_toNat, UInt32.add_assoc, UInt32.add_comm 1,
    UInt32.sub_add_cancel, UInt32.add_comm, UInt32.sub_add_cancel]

theorem distance_add (id : UInt32) {k : Nat} (hk : k < UInt32.size) :
    distance id (id + UInt32.ofNat (k + 1)) = k + 1 := by
  have hSteps : id + UInt32.ofNat (k + 1) - id - 1 = UInt32.ofNat k := by
    rw [UInt32.add_comm id, UInt32.add_sub_cancel, UInt32.ofNat_add k 1]
    exact UInt32.add_sub_cancel _ _
  rw [distance, hSteps, UInt32.toNat_ofNat_of_lt' hk]

theorem distance_self (id : UInt32) : distance id id = UInt32.size := by
  rw [distance, UInt32.sub_self]
  rfl

theorem distance_le_size (id other : UInt32) : distance id other ≤ UInt32.size :=
  (other - id - 1).toNat_lt

/-- The counter stands on no id before it has gone the distance. -/
theorem distance_le {id other : UInt32} {n : Nat} (hn : 0 < n)
    (h : id + UInt32.ofNat n = other) : distance id other ≤ n := by
  obtain ⟨k, rfl⟩ : ∃ k, n = k + 1 := ⟨n - 1, by omega⟩
  rcases Nat.lt_or_ge k UInt32.size with hShort | hLong
  · rw [← h, distance_add id hShort]
  · have := distance_le_size id other
    omega

/-- Every id follows every other one, and itself, within one round of the counter. -/
theorem exists_following (id other : UInt32) :
    ∃ k < UInt32.size, id + UInt32.ofNat (k + 1) = other :=
  ⟨_, distance_le_size id other, add_distance id other⟩

/-- Ids that follow one another are distinct until the counter has gone all the way round. -/
theorem nodup_following (id : UInt32) {n : Nat} (hn : n ≤ UInt32.size) :
    ((List.range n).map fun k => id + UInt32.ofNat (k + 1)).Nodup := by
  refine List.Nodup.map_on ?_ List.nodup_range
  intro j hj k hk h
  rw [List.mem_range] at hj hk
  have hSteps := congrArg (distance id) h
  rw [distance_add id (Nat.lt_of_lt_of_le hj hn), distance_add id (Nat.lt_of_lt_of_le hk hn)]
    at hSteps
  exact Nat.succ.inj hSteps

/-! ### The search for a free id -/

/-- The search stops at the first free id that it meets. -/
theorem search_eq {c : Correlator H} {k n : Nat} {id : UInt32} (hk : k < n)
    (hBusy : ∀ j < k, c.isFree (id + UInt32.ofNat (j + 1)) = false)
    (hFree : c.isFree (id + UInt32.ofNat (k + 1)) = true) :
    c.search n id = id + UInt32.ofNat (k + 1) := by
  induction k generalizing n id with
  | zero =>
    obtain ⟨n, rfl⟩ : ∃ m, n = m + 1 := ⟨n - 1, by omega⟩
    have hOne : UInt32.ofNat (0 + 1) = 1 := rfl
    rw [hOne] at hFree ⊢
    rw [search, if_pos hFree]
  | succ k ih =>
    obtain ⟨n, rfl⟩ : ∃ m, n = m + 1 := ⟨n - 1, by omega⟩
    have hHere : c.isFree (id + 1) = false := hBusy 0 (by omega)
    rw [search, hHere, if_neg (by decide), ← add_one_add_ofNat]
    apply ih (by omega)
    · intro j hj
      rw [add_one_add_ofNat]
      exact hBusy (j + 1) (by omega)
    · rw [add_one_add_ofNat]
      exact hFree

/-- Of the `pending.length + 2` ids that follow the counter one is free, since those in flight and
zero are fewer. -/
theorem exists_free_of_room {c : Correlator H} (hRoom : c.pending.length + 2 ≤ UInt32.size) :
    ∃ k < c.pending.length + 2, c.isFree (c.lastId + UInt32.ofNat (k + 1)) = true := by
  by_contra hNone
  simp only [not_exists, not_and, Bool.not_eq_true] at hNone
  have hSubset : ((List.range (c.pending.length + 2)).map fun k =>
      c.lastId + UInt32.ofNat (k + 1)) ⊆ 0 :: c.ids := by
    intro id hid
    obtain ⟨k, hk, rfl⟩ := List.mem_map.mp hid
    have hBusy := hNone k (List.mem_range.mp hk)
    rw [← Bool.not_eq_true, isFree_iff] at hBusy
    rw [List.mem_cons]
    by_contra hOut
    rw [not_or] at hOut
    exact hBusy hOut
  have hLength := (List.subperm_of_subset (nodup_following c.lastId hRoom) hSubset).length_le
  simp [ids] at hLength

/-- If an id is free at all, one is free among the `pending.length + 2` that follow the counter. -/
theorem exists_free_following {c : Correlator H} (h : ∃ id, c.isFree id = true) :
    ∃ k < c.pending.length + 2, c.isFree (c.lastId + UInt32.ofNat (k + 1)) = true := by
  by_cases hSize : c.pending.length + 2 ≤ UInt32.size
  · exact exists_free_of_room hSize
  · obtain ⟨id, hid⟩ := h
    obtain ⟨k, hBound, hReach⟩ := exists_following c.lastId id
    exact ⟨k, by omega, hReach.symm ▸ hid⟩

/-- The next id is the first free one after the counter, if any id is free. -/
theorem nextId_first {c : Correlator H} (h : ∃ id, c.isFree id = true) :
    ∃ k < c.pending.length + 2, c.nextId = c.lastId + UInt32.ofNat (k + 1) ∧
      c.isFree c.nextId = true ∧ ∀ j < k, c.isFree (c.lastId + UInt32.ofNat (j + 1)) = false := by
  classical
  have hEx := exists_free_following h
  obtain ⟨hBound, hFree⟩ := Nat.find_spec hEx
  have hBusy : ∀ j < Nat.find hEx, c.isFree (c.lastId + UInt32.ofNat (j + 1)) = false := by
    intro j hj
    have hMin := Nat.find_min hEx hj
    rw [not_and, Bool.not_eq_true] at hMin
    exact hMin (by omega)
  have hSearch : c.nextId = c.lastId + UInt32.ofNat (Nat.find hEx + 1) :=
    search_eq hBound hBusy hFree
  exact ⟨Nat.find hEx, hBound, hSearch, hSearch ▸ hFree, hBusy⟩

theorem isFree_nextId {c : Correlator H} (h : ∃ id, c.isFree id = true) :
    c.isFree c.nextId = true := by
  obtain ⟨_, _, _, hFree, _⟩ := nextId_first h
  exact hFree

theorem nextId_of_empty {c : Correlator H} (h : c.pending = []) :
    c.nextId = if c.lastId + 1 = 0 then 1 else c.lastId + 1 := by
  have hFree (id : UInt32) : c.isFree id = (id != 0) := by simp [isFree, h]
  rw [nextId, h, List.length_nil, search, search, hFree, hFree]
  by_cases hZero : c.lastId + 1 = 0
  · rw [hZero]
    rfl
  · rw [if_pos (bne_iff_ne.mpr hZero), if_neg hZero]

/-! ### Giving ids out and taking them back -/

/-- Giving out ids for handlers one after the other comes to an end: the search for an id does so
exactly if there is a free one. -/
def Admits (c : Correlator H) : List H → Prop
  | [] => True
  | handler :: rest => (∃ id, c.isFree id = true) ∧ (c.register handler).2.Admits rest

@[simp] theorem ids_register (c : Correlator H) (handler : H) :
    (c.register handler).2.ids = c.ids ++ [c.nextId] := by
  simp [register, ids]

/-- Handlers get ids as long as there are more ids than requests in flight. -/
theorem admits_of_room {c : Correlator H} {handlers : List H}
    (hRoom : c.pending.length + handlers.length < UInt32.size) : c.Admits handlers := by
  induction handlers generalizing c with
  | nil => trivial
  | cons handler rest ih =>
    rw [List.length_cons] at hRoom
    constructor
    · obtain ⟨_, _, hFree⟩ := exists_free_of_room (c := c) (by omega)
      exact ⟨_, hFree⟩
    · apply ih
      rw [register, List.length_append, List.length_singleton]
      omega

theorem Sound.register {c : Correlator H} (hc : c.Sound) (h : ∃ id, c.isFree id = true)
    (handler : H) : (c.register handler).2.Sound := by
  obtain ⟨hNonzero, hNew⟩ := isFree_iff.mp (isFree_nextId h)
  constructor
  · rw [ids_register, List.nodup_append]
    refine ⟨hc.distinct, List.nodup_singleton _, ?_⟩
    intro id hid id' hid' hSame
    rw [List.mem_singleton] at hid'
    exact hNew (hid' ▸ hSame ▸ hid)
  · rw [ids_register, List.mem_append, List.mem_singleton, not_or]
    exact ⟨hc.nonzero, fun h => hNonzero h.symm⟩

theorem Sound.take {c : Correlator H} (hc : c.Sound) (id : UInt32) : (c.take id).2.Sound := by
  have hSub : (c.take id).2.ids.Sublist c.ids := List.filter_sublist.map _
  exact ⟨hc.distinct.sublist hSub, fun h => hc.nonzero (hSub.subset h)⟩

theorem Sound.drain {c : Correlator H} : c.drain.2.Sound := Sound.empty _

theorem take_eq_of_notMem {c : Correlator H} {id : UInt32} (h : id ∉ c.ids) :
    c.take id = (none, c) := by
  have hNone : c.pending.lookup id = none := by
    rw [List.lookup_eq_none_iff]
    intro entry hEntry
    rw [bne_iff_ne]
    rintro rfl
    exact h (List.mem_map_of_mem hEntry)
  have hAll : (c.pending.filter fun entry => entry.1 != id) = c.pending := by
    rw [List.filter_eq_self]
    intro entry hEntry
    rw [bne_iff_ne]
    rintro rfl
    exact h (List.mem_map_of_mem hEntry)
  simp only [take, hNone, hAll]

/-- Taking an id that is in flight takes out its handler and leaves all others in their order. -/
theorem take_eq_of_pending {c : Correlator H} (hc : c.Sound) {id : UInt32} {handler : H}
    {before after : List (UInt32 × H)} (h : c.pending = before ++ (id, handler) :: after) :
    c.take id = (some handler, { c with pending := before ++ after }) := by
  have hDistinct := hc.distinct
  simp only [ids, h, List.map_append, List.map_cons, List.nodup_middle, List.nodup_cons,
    List.mem_append, not_or] at hDistinct
  obtain ⟨⟨hBefore, hAfter⟩, _⟩ := hDistinct
  have hOther {entries : List (UInt32 × H)} (hOut : id ∉ entries.map Prod.fst) :
      (entries.filter fun entry => entry.1 != id) = entries := by
    rw [List.filter_eq_self]
    intro entry hEntry
    rw [bne_iff_ne]
    rintro rfl
    exact hOut (List.mem_map_of_mem hEntry)
  have hLookup : c.pending.lookup id = some handler := by
    rw [h, List.lookup_append, List.lookup_eq_none_iff.mpr, Option.none_or, List.lookup_cons_self]
    intro entry hEntry
    rw [bne_iff_ne]
    rintro rfl
    exact hBefore (List.mem_map_of_mem hEntry)
  have hRest : (c.pending.filter fun entry => entry.1 != id) = before ++ after := by
    rw [h, List.filter_append, List.filter_cons_of_neg (by simp), hOther hBefore, hOther hAfter]
  simp only [take, hLookup, hRest]

theorem take_cases {c : Correlator H} (hc : c.Sound) (id : UInt32) :
    (id ∉ c.ids ∧ c.take id = (none, c)) ∨
      ∃ handler before after, c.pending = before ++ (id, handler) :: after ∧
        c.take id = (some handler, { c with pending := before ++ after }) := by
  by_cases hid : id ∈ c.ids
  · obtain ⟨⟨id', handler⟩, hEntry, rfl⟩ := List.mem_map.mp hid
    obtain ⟨before, after, hSplit⟩ := List.append_of_mem hEntry
    exact .inr ⟨handler, before, after, hSplit, take_eq_of_pending hc hSplit⟩
  · exact .inl ⟨hid, take_eq_of_notMem hid⟩

theorem mem_of_take {c : Correlator H} {id : UInt32} {handler : H}
    (h : (c.take id).1 = some handler) : (id, handler) ∈ c.pending := by
  obtain ⟨before, after, hSplit, _⟩ := List.lookup_eq_some_iff.mp h
  simp [hSplit]

theorem waiting_take_sublist (c : Correlator H) (id : UInt32) :
    (c.take id).2.waiting.Sublist c.waiting :=
  List.filter_sublist.map _

theorem take_of_empty {c : Correlator H} (h : c.pending = []) (id : UInt32) :
    c.take id = (none, c) := by
  apply take_eq_of_notMem
  rw [ids, h]
  exact List.not_mem_nil

theorem drain_of_empty {c : Correlator H} (h : c.pending = []) : c.drain = ([], c) := by
  obtain ⟨lastId, pending⟩ := c
  cases h
  rfl

end DocumentLink.Correlator
