import DocumentLink.Proofs.Connection.Keeping

/-! When an id comes again.  The counter goes through all ids in a circle, and the search for the
next id leaves out only zero and those in flight.  So between two registrations that return the same
id every other id has had its turn, and a reply that comes too late for its own request cannot reach
a newer one before that. -/

namespace DocumentLink.Correlator

variable {H : Type}

/-! ### The ids that a search leaves out -/

/-- The ids that a search meets before the one that it stops at. -/
def passed (c : Correlator H) : Nat → UInt32 → List UInt32
  | 0, _ => []
  | n + 1, id => if c.isFree (id + 1) then [] else (id + 1) :: c.passed n (id + 1)

/-- The ids that the search for the next one meets and leaves out. -/
def skipped (c : Correlator H) : List UInt32 := c.passed (c.pending.length + 2) c.lastId

/-- A search passes what lies before the first free id. -/
theorem mem_passed {c : Correlator H} {j n : Nat} {id : UInt32} (hj : j < n)
    (hBusy : ∀ i ≤ j, c.isFree (id + UInt32.ofNat (i + 1)) = false) :
    id + UInt32.ofNat (j + 1) ∈ c.passed n id := by
  induction j generalizing n id with
  | zero =>
    obtain ⟨n, rfl⟩ : ∃ m, n = m + 1 := ⟨n - 1, by omega⟩
    have hHere : c.isFree (id + 1) = false := hBusy 0 (Nat.le_refl 0)
    rw [passed, hHere, if_neg (by decide)]
    exact List.mem_cons_self
  | succ j ih =>
    obtain ⟨n, rfl⟩ : ∃ m, n = m + 1 := ⟨n - 1, by omega⟩
    have hHere : c.isFree (id + 1) = false := hBusy 0 (by omega)
    rw [passed, hHere, if_neg (by decide), ← add_one_add_ofNat]
    apply List.mem_cons_of_mem
    apply ih (by omega)
    intro i hi
    rw [add_one_add_ofNat]
    exact hBusy (i + 1) (by omega)

/-- The counter moves on to the next id, and what it moves past is zero or in flight. -/
theorem nextId_moves {c : Correlator H} (h : ∃ id, c.isFree id = true) :
    ∃ k, c.nextId = c.lastId + UInt32.ofNat (k + 1) ∧
      ∀ j < k, c.lastId + UInt32.ofNat (j + 1) = 0 ∨
        c.lastId + UInt32.ofNat (j + 1) ∈ c.skipped ∧ c.lastId + UInt32.ofNat (j + 1) ∈ c.ids := by
  obtain ⟨k, hBound, hNext, _, hBusy⟩ := nextId_first h
  refine ⟨k, hNext, fun j hj => ?_⟩
  have hHere := hBusy j hj
  rw [← Bool.not_eq_true, isFree_iff, not_and_or, not_not, not_not] at hHere
  exact hHere.imp_right fun hFlight =>
    ⟨mem_passed (by omega) fun i hi => hBusy i (by omega), hFlight⟩

/-! ### How far the counter has come -/

/-- A registration returns `id`. -/
def Turn.Issues (turn : Turn H) (id : UInt32) : Prop :=
  ∃ handler, turn.registered? = some (id, handler)

/-- A registration leaves `id` out, which is in flight at that moment. -/
def Turn.PassesOver (turn : Turn H) (id : UInt32) : Prop :=
  (∃ handler, turn.call = .register handler) ∧ id ∈ turn.before.skipped ∧ id ∈ turn.before.ids

/-- Some turn returns `id` or leaves it out. -/
def Met (log : List (Turn H)) (id : UInt32) : Prop :=
  ∃ turn ∈ log, turn.Issues id ∨ turn.PassesOver id

theorem Met.append_left {log : List (Turn H)} {id : UInt32} (h : Met log id)
    (more : List (Turn H)) : Met (log ++ more) id := by
  obtain ⟨turn, hTurn, hMet⟩ := h
  exact ⟨turn, List.mem_append_left _ hTurn, hMet⟩

variable {start c : Correlator H} {log : List (Turn H)}

/-- The counter has gone through `n` ids, some of them more than once if `n` is large, and has met
all of them but zero. -/
structure Advanced (start : Correlator H) (log : List (Turn H)) (c : Correlator H) (n : Nat) :
    Prop where
  counter : c.lastId = start.lastId + UInt32.ofNat n
  met : ∀ j < n, start.lastId + UInt32.ofNat (j + 1) = 0 ∨
    Met log (start.lastId + UInt32.ofNat (j + 1))
  moved : (∃ turn ∈ log, ∃ id, turn.Issues id) → 0 < n

theorem Advanced.stay {n : Nat} (h : Advanced start log c n) {turn : Turn H}
    (hCounter : turn.after.lastId = c.lastId) (hNone : turn.registered? = none) :
    Advanced start (log ++ [turn]) turn.after n := by
  refine ⟨hCounter.trans h.counter, fun j hj => (h.met j hj).imp_right (·.append_left _), ?_⟩
  rintro ⟨turn', hTurn, id, handler, hIssues⟩
  rcases List.mem_append.mp hTurn with hEarlier | hHere
  · exact h.moved ⟨turn', hEarlier, id, handler, hIssues⟩
  · rw [List.mem_singleton.mp hHere, hNone] at hIssues
    cases hIssues

theorem Advanced.register {n : Nat} (h : Advanced start log c n) {handler : H}
    (hReturns : ∃ id, c.isFree id = true) :
    ∃ m, Advanced start (log ++ [⟨c, .register handler⟩]) (c.register handler).2 m := by
  obtain ⟨k, hNext, hPast⟩ := nextId_moves hReturns
  have hShift (j : Nat) : c.lastId + UInt32.ofNat j = start.lastId + UInt32.ofNat (n + j) := by
    rw [h.counter, UInt32.ofNat_add, UInt32.add_assoc]
  have hLast {id : UInt32} (hMet : (Turn.mk c (.register handler)).Issues id ∨
      (Turn.mk c (.register handler)).PassesOver id) :
      Met (log ++ [⟨c, .register handler⟩]) id :=
    ⟨_, List.mem_append_right _ List.mem_cons_self, hMet⟩
  refine ⟨n + (k + 1), hNext.trans (hShift (k + 1)), ?_, fun _ => by omega⟩
  intro j hj
  rcases Nat.lt_or_ge j n with hEarlier | hHere
  · exact (h.met j hEarlier).imp_right (·.append_left _)
  · obtain ⟨i, rfl⟩ := Nat.exists_eq_add_of_le hHere
    rw [Nat.add_assoc, ← hShift]
    rcases Nat.lt_or_ge i k with hBefore | hAt
    · exact (hPast i hBefore).imp_right fun hSkipped => hLast (.inr ⟨⟨handler, rfl⟩, hSkipped⟩)
    · obtain rfl : i = k := by omega
      rw [← hNext]
      exact .inr (hLast (.inl ⟨handler, rfl⟩))

/-- In every run the counter goes on from id to id without leaving out one that could be given
out. -/
theorem Run.advanced (run : Run start log c) (hReturns : ∀ turn ∈ log, turn.Returns) :
    ∃ n, Advanced start log c n := by
  induction run with
  | refl =>
    refine ⟨0, (UInt32.add_zero _).symm, fun _ hj => absurd hj (Nat.not_lt_zero _), ?_⟩
    rintro ⟨_, hTurn, _⟩
    cases hTurn
  | next run call ih =>
    rw [List.forall_mem_append, List.forall_mem_singleton] at hReturns
    obtain ⟨n, hAdvanced⟩ := ih hReturns.1
    cases call with
    | register handler => exact hAdvanced.register (hReturns.2 handler rfl)
    | take id => exact ⟨n, hAdvanced.stay rfl rfl⟩
    | drain => exact ⟨n, hAdvanced.stay rfl rfl⟩

/-! ### The same id again -/

/-- Every id but zero is returned by one of the turns, or left out by one as it is in flight. -/
def Swept (log : List (Turn H)) : Prop := ∀ id, id ≠ 0 → Met log id

/-- The counter only comes back to where it was after a whole round. -/
theorem Run.swept (run : Run start log c) (hReturns : ∀ turn ∈ log, turn.Returns)
    (hSame : c.lastId = start.lastId) (hMoved : ∃ turn ∈ log, ∃ id, turn.Issues id) :
    Swept log := by
  obtain ⟨n, hAdvanced⟩ := run.advanced hReturns
  have hPositive := hAdvanced.moved hMoved
  have hWhole : UInt32.size ≤ n := by
    rw [← distance_self start.lastId]
    exact distance_le hPositive (hAdvanced.counter.symm.trans hSame)
  intro id hNonzero
  obtain ⟨k, hBound, rfl⟩ := exists_following start.lastId id
  exact (hAdvanced.met k (by omega)).resolve_left hNonzero

theorem Turn.lastId_after {turn : Turn H} {id : UInt32} (hReturns : turn.Returns)
    (h : turn.Issues id) : turn.after.lastId = id := by
  obtain ⟨handler, hGets⟩ := h
  rw [(after_of_registered hReturns hGets).2.2]

theorem Run.swept_between {first middle rest : List (Turn H)} {earlier later : Turn H}
    {id : UInt32} (run : Run start (first ++ earlier :: (middle ++ later :: rest)) c)
    (hReturns : ∀ turn ∈ first ++ earlier :: (middle ++ later :: rest), turn.Returns)
    (hEarlier : earlier.Issues id) (hLater : later.Issues id) : Swept (middle ++ [later]) := by
  simp only [List.forall_mem_append, List.forall_mem_cons] at hReturns
  obtain ⟨_, hReturnsEarlier, hReturnsMiddle, hReturnsLater, _⟩ := hReturns
  have hRun : Run earlier.after (middle ++ [later]) later.after :=
    run.split.2.split.1.next later.call
  refine hRun.swept ?_ ?_ ⟨later, List.mem_append_right _ List.mem_cons_self, id, hLater⟩
  · rw [List.forall_mem_append, List.forall_mem_singleton]
    exact ⟨hReturnsMiddle, hReturnsLater⟩
  · rw [Turn.lastId_after hReturnsLater hLater, Turn.lastId_after hReturnsEarlier hEarlier]

/-- An id whose handler has been given out is free. -/
theorem Turn.notMem_after {turn : Turn H} (hSound : turn.before.Sound) {id : UInt32} {handler : H}
    (h : (id, handler) ∈ turn.givenOut) : id ∉ turn.after.ids := by
  have hKept : (id, handler) ∈ turn.before.pending := by
    obtain ⟨before, call⟩ := turn
    cases call with
    | register handler' => cases h
    | take id' =>
      obtain ⟨handler', hTaken, hEntry⟩ := List.mem_map.mp h
      cases hEntry
      exact mem_of_take (Option.mem_toList.mp hTaken)
    | drain => exact h
  rcases kept_or_given hSound hKept with ⟨_, hNot⟩ | ⟨_, _, hFree⟩
  · exact absurd (List.mem_map_of_mem h) hNot
  · exact hFree

/-- Between two registrations that return the same id every other id that is not zero is returned or
left out because it is in flight.  So a reply to a request that has been answered reaches the
handler of a newer request only after a whole round of the counter. -/
theorem Run.sweeps_before_reissue {lastId : UInt32} (run : Run { lastId } log c)
    (hReturns : ∀ turn ∈ log, turn.Returns) :
    (∀ (first middle rest : List (Turn H)) (earlier later : Turn H) (id : UInt32),
      log = first ++ earlier :: (middle ++ later :: rest) → earlier.Issues id → later.Issues id →
      Swept (middle ++ [later])) ∧
    ∀ (first middle between rest : List (Turn H)) (earlier answer late : Turn H) (id : UInt32)
      (answered handler : H),
      log = first ++ earlier :: (middle ++ answer :: (between ++ late :: rest)) →
      earlier.Issues id → (id, answered) ∈ answer.givenOut → late.call = .take id →
      (late.before.take id).1 = some handler →
      ∃ before newer after, between = before ++ newer :: after ∧
        newer.registered? = some (id, handler) ∧
        Swept (middle ++ answer :: (before ++ [newer])) := by
  constructor
  · rintro first middle rest earlier later id rfl
    exact run.swept_between hReturns
  · rintro first middle between rest earlier answer late id answered handler rfl hEarlier hAnswered
      _ hReached
    have hAll := hReturns
    simp only [List.forall_mem_append, List.forall_mem_cons] at hAll
    obtain ⟨hFirst, hReturnsEarlier, hMiddle, hReturnsAnswer, hBetween, _⟩ := hAll
    -- the id is free after the answer, so the handler that is reached was registered since then
    have hSound : answer.before.Sound :=
      run.split.2.split.1.sound
        (Turn.sound_after (run.split.1.sound (.empty lastId) hFirst) hReturnsEarlier) hMiddle
    have hBalanced := run.split.2.split.2.split.1.balanced
      (Turn.sound_after hSound hReturnsAnswer) hBetween
    have hNewer := hBalanced.mem_iff.mpr (List.mem_append_right _ (mem_of_take hReached))
    rcases List.mem_append.mp hNewer with hOld | hNew
    · exact absurd (List.mem_map_of_mem hOld) (Turn.notMem_after hSound hAnswered)
    · obtain ⟨newer, hMember, hGets⟩ := List.mem_filterMap.mp hNew
      obtain ⟨before, after, rfl⟩ := List.append_of_mem hMember
      refine ⟨before, newer, after, rfl, hGets, ?_⟩
      have hParts : middle ++ answer :: (before ++ newer :: after ++ late :: rest) =
          (middle ++ answer :: before) ++ newer :: (after ++ late :: rest) := by simp
      rw [hParts] at run hReturns
      have hSwept := run.swept_between hReturns hEarlier ⟨handler, hGets⟩
      rwa [List.append_assoc, List.cons_append] at hSwept

/-! ### A whole round -/

/-- Where nobody waits, registering a handler and taking all handlers out again moves the counter
on by one. -/
theorem Run.goes_on {id : UInt32} (run : Run start log { lastId := id }) (handler : H) (n : Nat)
    (hBound : id.toNat + n < UInt32.size) : ∃ more, Run start (log ++ more)
      { lastId := id + UInt32.ofNat n } ∧ ∀ turn ∈ more, turn.HasRoom := by
  induction n with
  | zero =>
    have hHere : id + UInt32.ofNat 0 = id := UInt32.add_zero id
    exact ⟨[], by rwa [hHere, List.append_nil], List.forall_mem_nil _⟩
  | succ n ih =>
    obtain ⟨more, hRun, hMore⟩ := ih (by omega)
    have hNext : ({ lastId := id + UInt32.ofNat n } : Correlator H).nextId =
        id + UInt32.ofNat (n + 1) := by
      rw [nextId_of_empty rfl, if_neg]
      · rw [UInt32.ofNat_add, UInt32.add_assoc]
        rfl
      · intro hZero
        have hNat := congrArg UInt32.toNat hZero
        simp only [UInt32.toNat_add, UInt32.toNat_ofNat', UInt32.toNat_one, UInt32.toNat_zero,
          UInt32.size] at hNat hBound
        omega
    have hTwo : Run start _
        { lastId := ({ lastId := id + UInt32.ofNat n } : Correlator H).nextId } :=
      (hRun.next (.register handler)).next .drain
    rw [hNext, List.append_assoc, List.append_assoc] at hTwo
    refine ⟨_, hTwo, ?_⟩
    simp only [List.forall_mem_append, List.forall_mem_cons]
    refine ⟨hMore, ⟨?_, List.forall_mem_nil _⟩, ?_, List.forall_mem_nil _⟩
    · intro _ _
      show 0 < UInt32.size - 1
      decide
    · nofun

/-- A request is answered and all other ids are given out one after the other; then its id comes
again, and a second answer under it reaches the newer request. -/
theorem second_answer_after_a_round : ∃ (log between : List (Turn Nat)) (c : Correlator Nat)
    (earlier answer late : Turn Nat), Run { lastId := 0 } log c ∧ (∀ turn ∈ log, turn.Returns) ∧
      log = earlier :: answer :: (between ++ [late]) ∧ earlier.registered? = some (1, 7) ∧
      answer.givenOut = [(1, 7)] ∧ late.givenOut = [(1, 8)] ∧
      ∃ before newer after, between = before ++ newer :: after ∧
        newer.registered? = some (1, 8) ∧ Swept (answer :: (before ++ [newer])) := by
  let earlier : Turn Nat := ⟨{ lastId := 0 }, .register 7⟩
  let answer : Turn Nat := ⟨earlier.after, .take 1⟩
  have hAnswered : Run { lastId := 0 } [earlier, answer] { lastId := 1 } :=
    (Run.refl.next (.register 7)).next (.take 1)
  obtain ⟨round, hRound, hRoom⟩ := hAnswered.goes_on 0 4294967294 (by decide)
  have hAll : (1 : UInt32) + UInt32.ofNat 4294967294 = 4294967295 := by decide
  rw [hAll] at hRound
  let newer : Turn Nat := ⟨{ lastId := 4294967295 }, .register 8⟩
  let late : Turn Nat := ⟨newer.after, .take 1⟩
  have run : Run { lastId := 0 } ([earlier, answer] ++ round ++ [newer] ++ [late]) late.after :=
    (hRound.next newer.call).next late.call
  have hReturns : ∀ turn ∈ [earlier, answer] ++ round ++ [newer] ++ [late], turn.Returns := by
    simp only [List.forall_mem_append, List.forall_mem_cons]
    refine ⟨⟨⟨⟨?_, ?_, List.forall_mem_nil _⟩, fun turn hTurn => (hRoom turn hTurn).returns⟩,
      ?_, List.forall_mem_nil _⟩, ?_, List.forall_mem_nil _⟩
    · exact fun _ _ => ⟨1, by decide⟩
    · nofun
    · exact fun _ _ => ⟨1, by decide⟩
    · nofun
  have hLate : (late.before.take 1).1 = some 8 := by decide
  obtain ⟨before, newer', after, hParts, hGets, hSwept⟩ :=
    (run.sweeps_before_reissue hReturns).2 [] [] (round ++ [newer]) [] earlier answer late 1 7 8
      (by simp) ⟨7, rfl⟩ List.mem_cons_self rfl hLate
  exact ⟨_, _, _, earlier, answer, late, run, hReturns, by simp, rfl, rfl, by decide, before,
    newer', after, hParts, hGets, hSwept⟩

end DocumentLink.Correlator
