import DocumentLink.Proofs.Connection.Closure

/-! What a handler is told while operations overlap.  A handler that has been handed over stands
where it stands in a run of whole operations, or an operation that is under way owes it a loss; then
the connection does not hold it any more, and nothing else is owed to it or has been told it.  While
the connection is open only the reading side tells handlers anything, those of failed operations
apart, and it owes nobody anything. -/

namespace DocumentLink

variable {P H : Type}

/-! ### Who waits -/

section

variable [PoolEntry P] {h : H}

theorem Connection.waiting_turn {c : Connection P H} {move : Move P H} (hc : c.Coherent)
    (hPossible : ∀ event, move = .begin event → c.Possible event)
    (hMem : h ∈ (c.turn move).connection.correlator.waiting) :
    h ∈ c.correlator.waiting ∨ h ∈ move.accepted := by
  generalize hTurn : c.turn move = t at hMem
  cases hTurn ▸ c.turned_turn move with
  | sent outbound hEncode _ =>
    rw [waiting_stamp, List.mem_append] at hMem
    rwa [Move.accepted, Event.accepted_of_ok hEncode]
  | torn _ _ _ hEncode hOpen hTaken =>
    rw [takeAll_stamp hc.sound _ ((hPossible _ rfl).2 _ hEncode hOpen)] at hTaken
    cases hTaken
    exact .inl hMem
  | drop => cases hMem
  | read hStep hUnbroken =>
    cases reads_of_readStep hStep with
    | frame _ _ _ => exact .inl ((Correlator.waiting_take_sublist _ _).subset hMem)
    | stop _ _ hFailed =>
      rw [hFailed] at hUnbroken
      cases hUnbroken
    | _ => exact .inl hMem
  | fail _ _ => cases hMem
  | _ => exact .inl hMem

theorem Shared.Interleaved.waiting {start s : Shared P H} {log : List (Moment P H)}
    (run : Interleaved start log s) (hc : start.connection.Coherent)
    (hMem : h ∈ s.connection.correlator.waiting) :
    h ∈ start.connection.correlator.waiting ∨ h ∈ entrusted log := by
  induction run with
  | refl => exact .inl hMem
  | next run hMoves ih =>
    rw [entrusted_append, entrusted_singleton, List.mem_append, ← or_assoc]
    rw [hMoves.connection] at hMem
    exact (Connection.waiting_turn (run.coherent hc) hMoves.possible hMem).imp_left ih

end

variable [DecidableEq H]

/-! ### One turn -/

namespace Connection

variable {c : Connection P H} {h : H} {times : Nat} {calls : List Notice}

/-- Where a turn leaves a handler to which nothing was owed. -/
inductive Standing.Turned (t : Turn P H) (h : H) (times : Nat) (calls : List Notice) : Prop
  | standing (stands : Standing t.connection h times calls)
      (owes : callsOf h (due t.duties) = [])
  | owed (lost : ConnectionLost) (once : times = 1) (untold : calls = [])
      (away : t.connection.Away h) (owes : callsOf h (due t.duties) = [.lost lost])

theorem away_iff : c.Away h ↔ c.waits h = 0 ∧ c.held h = 0 := by
  have hHand : c.held h = 0 ↔ c.inHand ≠ some h := by
    rw [held, List.count_eq_zero, Option.mem_toList]
  rw [waits, List.count_eq_zero, hHand]
  exact ⟨fun ha => ⟨ha.waits, ha.held⟩, fun h => ⟨h.1, h.2⟩⟩

theorem Standing.away (hs : Standing c h 0 calls) : c.Away h := by
  cases hs with
  | unknown hWaits hHeld => exact away_iff.mpr ⟨hWaits, hHeld⟩

/-- A handler is handed over and is owed a loss at once. -/
theorem Standing.turned_tells (hs : Standing c h times calls) {t : Turn P H} {handlers : List H}
    {lost : ConnectionLost} {rest : List (Duty H)}
    (hOnce : times + handlers.count h ≤ 1) (hCorrelator : t.connection.correlator.pending =
      c.correlator.pending) (hPhase : t.connection.phase = c.phase)
    (hDuties : t.duties = handlers.map (.tell · lost) ++ rest) (hRest : due rest = []) :
    Standing.Turned t h (times + handlers.count h) calls := by
  have hOwes : callsOf h (due t.duties) = List.replicate (handlers.count h) (.lost lost) := by
    rw [hDuties, due_append, hRest, List.append_nil, due_tells, callsOf_map]
  have hWaits : t.connection.waits h = c.waits h := by
    rw [waits, waits, Correlator.waiting, Correlator.waiting, hCorrelator]
  by_cases hNone : handlers.count h = 0
  · rw [hNone] at hOwes hOnce ⊢
    refine .standing ?_ hOwes
    have hMoved : Standing t.connection h (times + 0) (calls ++ callsOf h []) :=
      hs.move 0 hOnce (.inl hPhase) (by omega) (by simp [hWaits, held_of_phase hPhase])
        (List.forall_mem_nil _)
    simpa [callsOf] using hMoved
  · obtain ⟨rfl, hOne⟩ : times = 0 ∧ handlers.count h = 1 := by omega
    have ha := hs.away
    rw [hOne] at hOwes ⊢
    refine .owed lost rfl hs.silent ⟨?_, ?_⟩ hOwes
    · rw [Correlator.waiting, hCorrelator]
      exact ha.waits
    · rw [inHand, hPhase]
      exact ha.held

/-- The handlers that wait are taken out and each is owed the loss. -/
theorem Standing.turned_fail (hs : Standing c h times calls) (hOnce : times ≤ 1) (reason : String) :
    Standing.Turned (c.markClosed reason) h times calls := by
  have hOwes : callsOf h (due (c.markClosed reason).duties) =
      List.replicate (c.waits h) (.lost (c.closed.getD ⟨c.address, reason⟩)) := by
    rw [due_markClosed, callsOf_map]
    rfl
  have hWaits : (c.markClosed reason).connection.waits h = 0 := rfl
  have hHeld : (c.markClosed reason).connection.held h = c.held h := rfl
  cases hs with
  | unknown hWait hHold =>
    rw [hWait] at hOwes
    exact .standing (.unknown hWaits (hHeld.trans hHold)) hOwes
  | waiting hWait hHold =>
    rw [hWait] at hOwes
    exact .owed _ rfl rfl (away_iff.mpr ⟨hWaits, hHeld.trans hHold⟩) hOwes
  | served hWait hInReply =>
    rw [hWait] at hOwes
    exact .standing (.served hWaits hInReply) hOwes
  | ended hWait hHold hEnded =>
    rw [hWait] at hOwes
    exact .standing (.ended hWaits (hHeld.trans hHold) hEnded) hOwes

variable [PoolEntry P] {move : Move P H}

theorem Standing.turn (hs : Standing c h times calls) (hc : c.Coherent)
    (hPossible : ∀ event, move = .begin event → c.Possible event)
    (hOnce : times + move.accepted.count h ≤ 1)
    (hDone : callsOf h (due move.duty?.toList) = []) :
    Standing.Turned (c.turn move) h (times + move.accepted.count h)
      (calls ++ callsOf h (c.turn move).told) := by
  -- a turn that hands nothing over, tells nobody anything and leaves no loss to be told
  have hQuiet {t : Turn P H} (hNew : move.accepted = []) (hCorrelator : t.connection.correlator =
      c.correlator) (hPhase : t.connection.phase = c.phase) (hTold : t.told = [])
      (hDue : due t.duties = []) :
      Standing.Turned t h (times + move.accepted.count h) (calls ++ callsOf h t.told) := by
    rw [hNew, hTold]
    refine .standing ?_ (by rw [hDue]; rfl)
    simpa [callsOf] using hs.of_same hCorrelator hPhase
  generalize hTurn : c.turn move = t
  cases hTurn ▸ c.turned_turn move with
  | refused hEncode => exact hQuiet (Event.accepted_of_error (P := P) hEncode) rfl rfl rfl rfl
  | @lost ops batch lost hEncode hClosed =>
    rw [Move.accepted, Event.accepted_of_ok hEncode] at hOnce ⊢
    show Standing.Turned _ h _ (calls ++ [])
    rw [List.append_nil]
    exact hs.turned_tells hOnce rfl rfl (List.append_nil _).symm rfl
  | @sent ops batch outbound hEncode hOpen =>
    refine .standing ?_ rfl
    exact hs.query hc (hPossible _ rfl).2 hOnce (.sent outbound hEncode hOpen)
  | @torn ops batch outbound e unsent rest bytes hEncode hOpen hTaken =>
    rw [takeAll_stamp hc.sound _ ((hPossible _ rfl).2 _ hEncode hOpen)] at hTaken
    cases hTaken
    rw [Move.accepted, Event.accepted_of_ok hEncode] at hOnce ⊢
    show Standing.Turned _ h _ (calls ++ [])
    rw [List.append_nil]
    exact hs.turned_tells hOnce rfl rfl rfl rfl
  | close => exact hQuiet rfl rfl rfl rfl rfl
  | drop => exact .standing (hs.perform hc (hPossible .drop rfl) hOnce) rfl
  | broken hFailed =>
    refine .standing ?_ rfl
    refine hs.move 0 hOnce (.inr rfl) (Nat.le_refl _) ?_ lost_of_mem_told
    rw [map_fst_told]
    rfl
  | read hStep hUnbroken => exact .standing (hs.read hc hOnce hStep) rfl
  | tell handler lost =>
    refine .standing ?_ rfl
    have hTold : callsOf h [(handler, Notice.lost lost)] = [] := hDone
    show Standing c h times (calls ++ callsOf h [(handler, Notice.lost lost)])
    rw [hTold, List.append_nil]
    exact hs
  | fail reason _ =>
    show Standing.Turned _ h times (calls ++ [])
    rw [List.append_nil]
    exact hs.turned_fail hOnce reason
  | quiet _ _ _ _ hNoQuery _ _ => exact hQuiet (Move.accepted_of_ne hNoQuery) rfl rfl rfl rfl

/-- A turn that neither takes a handler on nor closes the connection under it leaves nothing to be
told to it, and tells it nothing but what has been read. -/
theorem spared_turn (hc : c.Coherent) (hPossible : ∀ event, move = .begin event → c.Possible event)
    (hNew : h ∉ move.accepted)
    (hSafe : (c.turn move).connection.closed = none ∨ h ∉ c.correlator.waiting)
    (hDone : callsOf h (due move.duty?.toList) = []) :
    callsOf h (due (c.turn move).duties) = [] ∧
      (callsOf h (c.turn move).told ≠ [] → move = .begin .read) := by
  have hNobody {handlers : List H} (hOut : h ∉ handlers) (notice : Notice) :
      callsOf h (handlers.map (·, notice)) = [] := by
    rw [callsOf_map, List.count_eq_zero.mpr hOut]
    rfl
  have hWaits {lost : ConnectionLost} (hSafe : some lost = none ∨ h ∉ c.correlator.waiting) :
      h ∉ c.correlator.waiting := by
    rcases hSafe with hOpen | hOut
    · cases hOpen
    · exact hOut
  generalize hTurn : c.turn move = t at hSafe
  cases hTurn ▸ c.turned_turn move with
  | lost hEncode hClosed =>
    rw [Move.accepted, Event.accepted_of_ok hEncode] at hNew
    rw [due_tells]
    exact ⟨hNobody hNew _, fun hTold => absurd rfl hTold⟩
  | torn outbound e bytes hEncode hOpen hTaken =>
    rw [takeAll_stamp hc.sound _ ((hPossible _ rfl).2 _ hEncode hOpen)] at hTaken
    cases hTaken
    rw [Move.accepted, Event.accepted_of_ok hEncode] at hNew
    rw [due_append, due_tells, callsOf_append, hNobody hNew]
    exact ⟨rfl, fun hTold => absurd rfl hTold⟩
  | drop =>
    refine ⟨rfl, fun hTold => absurd ?_ hTold⟩
    show callsOf h (c.fail "socket dropped").told = []
    rw [told_fail]
    exact hNobody (hWaits hSafe) _
  | broken _ => exact ⟨rfl, fun _ => rfl⟩
  | read _ _ => exact ⟨rfl, fun _ => rfl⟩
  | tell handler lost => exact ⟨rfl, fun hTold => absurd hDone hTold⟩
  | fail reason _ =>
    rw [due_markClosed]
    exact ⟨hNobody (hWaits hSafe) _, fun hTold => absurd rfl hTold⟩
  | _ => exact ⟨rfl, fun hTold => absurd rfl hTold⟩

end Connection

/-! ### Whole runs -/

namespace Shared

open Connection (Standing)

/-- Where a handler is while operations overlap: it stands somewhere and nothing is owed to it, or
the loss is owed to it that its story ends with. -/
inductive Place (s : Shared P H) (h : H) (times : Nat) (calls : List Notice) : Prop
  | connected (standing : Standing s.connection h times calls) (owes : s.owed h = [])
  | due (lost : ConnectionLost) (once : times = 1) (untold : calls = [])
      (away : s.connection.Away h) (owes : s.owed h = [.lost lost])

theorem Place.away {s : Shared P H} {h : H} {calls : List Notice} (hp : Place s h 0 calls) :
    s.connection.Away h ∧ s.owed h = [] := by
  cases hp with
  | connected hs hOwes => exact ⟨hs.away, hOwes⟩
  | due _ hOne _ _ _ => cases hOne

/-- A handler that the connection holds has been handed over once, and nothing is owed to it. -/
theorem Place.standing_of_held {s : Shared P H} {h : H} {times : Nat} {calls : List Notice}
    (hp : Place s h times calls)
    (hHeld : h ∈ s.connection.correlator.waiting ∨ s.connection.inHand = some h) :
    times = 1 ∧ s.owed h = [] ∧ Standing s.connection h 1 calls := by
  have hNotAway : ¬s.connection.Away h := by
    rintro ⟨hWaits, hHand⟩
    rcases hHeld with hWaiting | hInHand
    · exact hWaits hWaiting
    · exact hHand hInHand
  cases hp with
  | connected hs hOwes =>
    cases hs with
    | unknown hWaits hHold => exact absurd (Connection.away_iff.mpr ⟨hWaits, hHold⟩) hNotAway
    | waiting hWaits hHold => exact ⟨rfl, hOwes, .waiting hWaits hHold⟩
    | served hWaits hPhase => exact ⟨rfl, hOwes, .served hWaits hPhase⟩
    | ended hWaits hHold hEnded => exact ⟨rfl, hOwes, .ended hWaits hHold hEnded⟩
  | due _ _ _ hAway _ => exact absurd hAway hNotAway

/-- What a handler has been told and is still owed is one story. -/
theorem Place.story {s : Shared P H} {h : H} {calls : List Notice}
    (hp : Place s h 1 calls) : Story (calls ++ s.owed h) := by
  cases hp with
  | connected hs hOwes =>
    rw [hOwes, List.append_nil]
    exact hs.story
  | due lost _ hUntold _ hOwes =>
    rw [hOwes, hUntold]
    exact .ended (.lost ⟨0, 0, 0, 0⟩ [] lost)

/-- Once the connection does not hold a handler any more, its story ends with what it is owed. -/
theorem Place.over {s : Shared P H} {h : H} {calls : List Notice}
    (hp : Place s h 1 calls) (ha : s.connection.Away h) : Ended (calls ++ s.owed h) := by
  cases hp with
  | connected hs hOwes =>
    obtain ⟨hWaits, hHeld⟩ := Connection.away_iff.mp ha
    rw [hOwes, List.append_nil]
    exact hs.over hWaits hHeld
  | due lost _ hUntold _ hOwes =>
    rw [hOwes, hUntold]
    exact .lost ⟨0, 0, 0, 0⟩ [] lost

variable [PoolEntry P] {start s s' : Shared P H} {log : List (Moment P H)} {h : H} {times : Nat}
  {calls : List Notice}

theorem Place.move {move : Move P H} (hp : Place s h times calls) (hMoves : s.Moves move s')
    (hc : s.connection.Coherent) (hOnce : times + move.accepted.count h ≤ 1) :
    Place s' h (times + move.accepted.count h)
      (calls ++ callsOf h (s.connection.turn move).told) := by
  obtain ⟨others, hBefore, hAfter⟩ := hMoves.outstanding
  have hOwed := perm_owed hBefore h
  have hOwes := perm_owed hAfter h
  cases hp with
  | connected hs hNothing =>
    rw [hNothing] at hOwed
    obtain ⟨hDone, hOthers⟩ := List.append_eq_nil_iff.mp hOwed.symm.eq_nil
    rw [hOthers, List.append_nil] at hOwes
    cases hs.turn hc hMoves.possible hOnce hDone with
    | standing hStands hNew =>
      rw [hNew] at hOwes
      exact .connected (hMoves.connection ▸ hStands) hOwes.eq_nil
    | owed lost hOne hUntold hAway hNew =>
      rw [hNew] at hOwes
      exact .due lost hOne hUntold (hMoves.connection ▸ hAway) (List.perm_singleton.mp hOwes)
  | due lost hOne hUntold ha hLoss =>
    have hNone : move.accepted.count h = 0 := by omega
    have hUntaken : s.connection.closed = some lost ∨ move.accepted.count h = 0 := .inr hNone
    obtain ⟨haNext, hTold, hNew⟩ := ha.turn hc hMoves.possible hUntaken
    rw [hNone] at hNew ⊢
    rw [hNew, List.replicate_zero, List.nil_append] at hOwes
    rw [hLoss] at hOwed
    rw [hTold, hUntold, hOne, List.nil_append]
    rw [← hMoves.connection] at haNext
    -- the one loss that is owed is told now or stays owed
    rcases List.append_eq_singleton_iff.mp (List.singleton_perm.mp hOwed).symm with
      ⟨hDone, hOthers⟩ | ⟨hDone, hOthers⟩
    · rw [hDone]
      rw [hOthers] at hOwes
      exact .due lost rfl rfl haNext (List.perm_singleton.mp hOwes)
    · rw [hDone]
      rw [hOthers] at hOwes
      obtain ⟨hWaits, hHeld⟩ := Connection.away_iff.mp haNext
      exact .connected (.ended hWaits hHeld (.lost ⟨0, 0, 0, 0⟩ [] lost)) hOwes.eq_nil

theorem Interleaved.place (run : Interleaved start log s) (hc : start.connection.Coherent)
    (hFresh : Place start h 0 []) (hOnce : (entrusted log).count h ≤ 1) :
    Place s h ((entrusted log).count h) (callsOf h (heard log)) := by
  induction run with
  | refl => exact hFresh
  | next run hMoves ih =>
    rw [entrusted_append, entrusted_singleton, List.count_append] at hOnce ⊢
    rw [heard_append, heard_singleton, callsOf_append]
    exact (ih (by omega)).move hMoves (run.coherent hc) hOnce

/-! ### Stories to their end -/

/-- Operations that overlap tell each handler one story as well.  As long as some of them are under
way, what they owe to a handler is the rest of it. -/
theorem Interleaved.hears_one_story {address : String} {maxMessageSize : Nat} {pool : P}
    (run : Interleaved ⟨.opened address maxMessageSize pool, []⟩ log s)
    (hOnce : (entrusted log).Nodup) :
    (∀ h ∈ entrusted log, Story (callsOf h (heard log) ++ s.owed h)) ∧
    (s.connection.isClosed = true ∨ s.connection.referenced = false →
      s.connection.phase = .stopped →
      ∀ h ∈ entrusted log, Ended (callsOf h (heard log) ++ s.owed h)) ∧
    ∀ h, h ∉ entrusted log → callsOf h (heard log) ++ s.owed h = [] := by
  have hStart := Connection.Coherent.opened (H := H) address maxMessageSize pool
  have hPlace {h : H} (hMem : h ∈ entrusted log) :
      Place s h 1 (callsOf h (heard log)) := by
    have hOne := List.count_eq_one_of_mem hOnce hMem
    exact hOne ▸ run.place hStart (.connected (.unknown rfl rfl) rfl) (Nat.le_of_eq hOne)
  refine ⟨fun h hMem => (hPlace hMem).story, ?_, ?_⟩
  · intro hGone hStopped h hMem
    have hc := run.coherent hStart
    have hDrained := hc.drained (hGone.elim id hc.disposed)
    apply (hPlace hMem).over
    constructor
    · rw [Correlator.waiting, hDrained]
      exact List.not_mem_nil
    · rw [Connection.inHand, hStopped]
      intro hHand
      cases hHand
  · intro h hNever
    obtain ⟨_, hSilent, hOwed⟩ := run.untouched hNever
    rw [hSilent, hOwed]
    rfl

/-- Once no operation is under way a handler has heard all of its story. -/
theorem Interleaved.hears_one_story_of_idle {address : String} {maxMessageSize : Nat} {pool : P}
    (run : Interleaved ⟨.opened address maxMessageSize pool, []⟩ log s)
    (hOnce : (entrusted log).Nodup) (hIdle : s.underWay = []) :
    (∀ h ∈ entrusted log, Story (callsOf h (heard log))) ∧
    (s.connection.isClosed = true ∨ s.connection.referenced = false →
      s.connection.phase = .stopped → ∀ h ∈ entrusted log, Ended (callsOf h (heard log))) ∧
    ∀ h, h ∉ entrusted log → callsOf h (heard log) = [] := by
  have hOwed (h : H) : s.owed h = [] := by
    rw [owed, outstanding, hIdle]
    rfl
  have hStories := run.hears_one_story hOnce
  simp only [hOwed, List.append_nil] at hStories
  exact hStories

/-! ### Handlers that are left alone -/

/-- While a connection stays open, or a handler does not wait on it, only what is read is told to
the handler. -/
theorem Interleaved.spared (run : Interleaved start log s) (hc : start.connection.Coherent)
    (hOwed : start.owed h = []) (hNew : h ∉ entrusted log)
    (hSafe : s.connection.closed = none ∨ h ∉ start.connection.correlator.waiting) :
    s.owed h = [] ∧
      ∀ moment ∈ log, callsOf h moment.turn.told ≠ [] → moment.move = .begin .read := by
  induction run with
  | refl => exact ⟨hOwed, List.forall_mem_nil _⟩
  | @next log s s' run move hMoves ih =>
    rw [entrusted_append, entrusted_singleton, List.mem_append, not_or] at hNew
    have hcNow := run.coherent hc
    have hSafeNow : s.connection.closed = none ∨ h ∉ start.connection.correlator.waiting := by
      refine hSafe.imp_left fun hOpen => ?_
      by_contra hNot
      obtain ⟨lost, hClosed⟩ := Option.ne_none_iff_exists'.mp hNot
      rw [(hMoves.closed hClosed hcNow).1] at hOpen
      cases hOpen
    obtain ⟨hNothing, hRead⟩ := ih hNew.1 hSafeNow
    obtain ⟨others, hBefore, hAfter⟩ := hMoves.outstanding
    have hOwedNow := perm_owed hBefore h
    have hOwes := perm_owed hAfter h
    rw [hNothing] at hOwedNow
    obtain ⟨hDone, hOthers⟩ := List.append_eq_nil_iff.mp hOwedNow.symm.eq_nil
    have hSafeNext : (s.connection.turn move).connection.closed = none ∨
        h ∉ s.connection.correlator.waiting := by
      rw [← hMoves.connection]
      refine hSafe.imp_right fun hOut hMem => ?_
      rcases run.waiting hc hMem with hEarlier | hTaken
      · exact hOut hEarlier
      · exact hNew.1 hTaken
    obtain ⟨hDue, hTold⟩ :=
      Connection.spared_turn hcNow hMoves.possible hNew.2 hSafeNext hDone
    rw [hDue, hOthers] at hOwes
    refine ⟨hOwes.eq_nil, ?_⟩
    rw [List.forall_mem_append]
    exact ⟨hRead, List.forall_mem_singleton.mpr hTold⟩

end Shared

end DocumentLink
