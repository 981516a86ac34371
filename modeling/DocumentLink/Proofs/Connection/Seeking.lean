import DocumentLink.Proofs.Connection.Correlator

/-! How long the search for an id goes on.  Nothing in it bounds it: it ends because the ids that
follow the counter are distinct for a whole round, so that those in flight and zero are soon behind
it.  What it ends with is the free id that the counter comes to first. -/

namespace DocumentLink.Correlator

variable {H : Type}

def moved (c : Correlator H) : Correlator H := { c with lastId := c.lastId + 1 }

/-- The search as it goes on, with no bound to it: after so many steps the counter of `found` stands
on a free id. -/
inductive Seeks : Correlator H → Nat → Correlator H → Prop
  | stops {c : Correlator H} (free : c.moved.isFree c.moved.lastId = true) : Seeks c 1 c.moved
  | goesOn {c found : Correlator H} {steps : Nat}
      (busy : c.moved.isFree c.moved.lastId = false) (rest : Seeks c.moved steps found) :
      Seeks c (steps + 1) found

/-- A search can only come out in one way. -/
theorem Seeks.unique {c found found' : Correlator H} {steps steps' : Nat}
    (h : Seeks c steps found) (h' : Seeks c steps' found') : steps' = steps ∧ found' = found := by
  induction h generalizing steps' with
  | stops free =>
    cases h' with
    | stops => exact ⟨rfl, rfl⟩
    | goesOn busy => simp [busy] at free
  | goesOn busy _ ih =>
    cases h' with
    | stops free => simp [busy] at free
    | goesOn _ rest =>
      obtain ⟨rfl, rfl⟩ := ih rest
      exact ⟨rfl, rfl⟩

/-- Whenever the search ends it ends with a free id. -/
theorem Seeks.isFree {c found : Correlator H} {steps : Nat} (h : Seeks c steps found) :
    c.isFree found.lastId = true := by
  induction h with
  | stops free => exact free
  | goesOn _ _ ih => exact ih

/-- The search goes past the ids that are not free and stops at the first one that is. -/
theorem seeks_of_busy {c : Correlator H} {k : Nat}
    (hBusy : ∀ j < k, c.isFree (c.lastId + UInt32.ofNat (j + 1)) = false)
    (hFree : c.isFree (c.lastId + UInt32.ofNat (k + 1)) = true) :
    Seeks c (k + 1) { c with lastId := c.lastId + UInt32.ofNat (k + 1) } := by
  induction k generalizing c with
  | zero => exact .stops hFree
  | succ k ih =>
    have hRest : Seeks c.moved (k + 1)
        { c with lastId := c.lastId + 1 + UInt32.ofNat (k + 1) } := by
      apply ih
      · intro j hj
        show c.isFree (c.lastId + 1 + UInt32.ofNat (j + 1)) = false
        rw [add_one_add_ofNat]
        exact hBusy (j + 1) (by omega)
      · show c.isFree (c.lastId + 1 + UInt32.ofNat (k + 1)) = true
        rw [add_one_add_ofNat]
        exact hFree
    rw [add_one_add_ofNat] at hRest
    exact .goesOn (hBusy 0 (by omega)) hRest

/-- The search ends exactly if there is something to be found. -/
theorem exists_seeks_iff {c : Correlator H} :
    (∃ steps found, Seeks c steps found) ↔ ∃ id, c.isFree id = true := by
  constructor
  · rintro ⟨_, found, hSeeks⟩
    exact ⟨found.lastId, hSeeks.isFree⟩
  · intro hFree
    obtain ⟨k, _, hNext, hNextFree, hBusy⟩ := nextId_first hFree
    exact ⟨_, _, seeks_of_busy hBusy (hNext ▸ hNextFree)⟩

/-- Of the ids that can be given out, `id` is the one that the counter comes to first. -/
structure FirstFree (c : Correlator H) (id : UInt32) : Prop where
  nonzero : id ≠ 0
  unused : id ∉ c.ids
  first : ∀ other, other ≠ 0 → other ∉ c.ids → other ≠ id →
    distance c.lastId id < distance c.lastId other

theorem FirstFree.of_busy {c : Correlator H} {k : Nat}
    (hBusy : ∀ j < k, c.isFree (c.lastId + UInt32.ofNat (j + 1)) = false)
    (hFree : c.isFree (c.lastId + UInt32.ofNat (k + 1)) = true) (hk : k < UInt32.size) :
    FirstFree c (c.lastId + UInt32.ofNat (k + 1)) := by
  obtain ⟨hNonzero, hUnused⟩ := isFree_iff.mp hFree
  refine ⟨hNonzero, hUnused, ?_⟩
  intro other hOther hOtherUnused hDifferent
  rw [distance_add _ hk]
  have hReach := add_distance c.lastId other
  obtain ⟨j, hj⟩ : ∃ j, distance c.lastId other = j + 1 := ⟨_, rfl⟩
  rw [hj] at hReach ⊢
  -- an id that is met no later than the found one is not free, or the found one itself
  rcases Nat.lt_trichotomy j k with hBefore | rfl | hAfter
  · have hNotFree := hBusy j hBefore
    rw [hReach, isFree_iff.mpr ⟨hOther, hOtherUnused⟩] at hNotFree
    cases hNotFree
  · exact absurd hReach.symm hDifferent
  · omega

/-- While there is room for one more request the search ends, and in one way only.  Every id in
flight, and zero, costs it at most one step; it finds the first free id after the counter and leaves
the map as it is, and that is the id under which a handler is registered. -/
theorem seeks_first_free {c : Correlator H} (hRoom : c.pending.length < UInt32.size - 1) :
    ∃ steps ≤ c.pending.length + 2,
      Seeks c steps { c with lastId := c.nextId } ∧
      (∀ steps' found, Seeks c steps' found →
        steps' = steps ∧ found = { c with lastId := c.nextId }) ∧
      steps = distance c.lastId c.nextId ∧ FirstFree c c.nextId ∧
      ∀ handler, c.register handler =
        (c.nextId, { lastId := c.nextId, pending := c.pending ++ [(c.nextId, handler)] }) := by
  have hSize : c.pending.length + 2 ≤ UInt32.size := by
    simp only [UInt32.size] at *
    omega
  obtain ⟨_, _, hAnyFree⟩ := exists_free_of_room hSize
  obtain ⟨k, hBound, hNext, hFree, hBusy⟩ := nextId_first ⟨_, hAnyFree⟩
  rw [hNext] at hFree ⊢
  have hk : k < UInt32.size := by omega
  have hSeeks := seeks_of_busy hBusy hFree
  exact ⟨k + 1, hBound, hSeeks, fun _ _ hOther => hSeeks.unique hOther, (distance_add _ hk).symm,
    .of_busy hBusy hFree hk, fun handler => by rw [register, hNext]⟩

/-- The counter goes past an id in flight, past zero and past another id in flight: no search among
two requests can take longer. -/
theorem seeks_past_zero :
    let c : Correlator Nat := ⟨4294967294, [(1, 7), (4294967295, 8)]⟩
    c.pending.length < UInt32.size - 1 ∧ Seeks c 4 { c with lastId := 2 } ∧ FirstFree c 2 := by
  intro c
  have hRoom : c.pending.length < UInt32.size - 1 := by decide
  obtain ⟨steps, -, hSeeks, -, hSteps, hFirst, -⟩ := seeks_first_free hRoom
  have hNext : c.nextId = 2 := by decide
  have hFour : distance c.lastId 2 = 4 := by decide
  rw [hNext] at hSeeks hSteps hFirst
  rw [hSteps, hFour] at hSeeks
  exact ⟨hRoom, hSeeks, hFirst⟩

end DocumentLink.Correlator
