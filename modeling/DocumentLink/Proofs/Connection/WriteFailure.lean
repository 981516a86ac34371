import DocumentLink.Proofs.Connection.Arrival
import DocumentLink.Proofs.Connection.Reasons
import DocumentLink.Proofs.Connection.Resolution
import DocumentLink.Proofs.Connection.Sending

/-! A batch whose write fails.  The ids that its handlers have just been given are taken back, those
that were given out before stay until the connection is marked as closed, and everybody who waits is
told of the failed write once.  A handler that the reading side holds is left to it: the stream is
shut down, so reading comes to its end and ends that handler's story as well. -/

namespace DocumentLink

variable {P H : Type}

/-! ### The bytes that do not fit -/

theorem Outbound.write_of_limit {out : Outbound} {n : Nat} {e : IoError} {b : Bytes}
    (hLimit : out.limit = some (n, e)) (hPart : n < b.length) :
    out.write b = (b.take n, some e, ⟨some (0, e)⟩) := by
  simp only [write, hLimit]
  rw [if_neg (by omega)]

namespace Connection

theorem length_of_stamp? {c c' : Correlator H} {bytes bytes' : Bytes} {awaiting : List (Nat × H)}
    {ids : List UInt32} (h : stamp? c bytes awaiting = some (ids, c', bytes')) :
    bytes'.length = bytes.length := by
  induction awaiting generalizing c bytes ids with
  | nil =>
    cases h
    rfl
  | cons entry rest ih =>
    obtain ⟨position, handler⟩ := entry
    simp only [stamp?, Option.bind_eq_bind, Option.bind_eq_some_iff] at h
    obtain ⟨patched, hPatched, ⟨ids', c'', bytes''⟩, hRest, hSame⟩ := h
    cases hSame
    rw [ih hRest, Bytes.length_of_setInt32? hPatched]

/-- Putting in the ids does not change how long a batch is. -/
theorem length_stamped {c : Correlator H} {ops : List (Operation H)} {batch : Batch H}
    (hEncode : Batch.encode [] ops = .ok batch)
    (hAdmits : c.Admits (batch.awaiting.map Prod.snd)) :
    (stamp c batch.bytes batch.awaiting).2.2.length = batch.bytes.length := by
  rw [Batch.handlers_awaiting hEncode] at hAdmits
  obtain ⟨messages, hMessages, rfl⟩ := Batch.encode_eq_ok_iff.mp hEncode
  obtain ⟨ids, c', bytes, _, hStamp, hChecked⟩ :=
    stamp_sends (mapM_eq_ok_iff.mp hMessages) hAdmits []
  have hLength := length_of_stamp? hChecked
  rw [← hLength]
  dsimp only
  rw [hStamp]

/-! ### How the query comes out -/

/-- A query on an open connection whose write fails after the first `n` bytes of its batch. -/
structure WriteFails (c : Connection P H) (ops : List (Operation H)) (batch : Batch H) (n : Nat)
    (e : IoError) : Prop where
  encoded : Batch.encode [] ops = .ok batch
  returns : c.Returns ops
  opened : c.closed = none
  limit : c.outbound.limit = some (n, e)
  part : n < batch.bytes.length

section

variable {c : Connection P H} {ops : List (Operation H)} {batch : Batch H} {n : Nat} {e : IoError}

theorem WriteFails.write (h : c.WriteFails ops batch n e) :
    c.outbound.write (stamp c.correlator batch.bytes batch.awaiting).2.2 =
      ((stamp c.correlator batch.bytes batch.awaiting).2.2.take n, some e, ⟨some (0, e)⟩) := by
  apply Outbound.write_of_limit h.limit
  rw [length_stamped h.encoded (h.returns _ h.encoded h.opened)]
  exact h.part

theorem WriteFails.taken (h : c.WriteFails ops batch n e) (hc : c.Coherent) :
    takeAll (stamp c.correlator batch.bytes batch.awaiting).2.1
        (stamp c.correlator batch.bytes batch.awaiting).1 =
      (ops.filterMap Operation.handler,
        { (stamp c.correlator batch.bytes batch.awaiting).2.1 with
          pending := c.correlator.pending }) := by
  rw [← Batch.handlers_awaiting h.encoded]
  exact takeAll_stamp hc.sound batch.bytes (h.returns _ h.encoded h.opened)

/-- The turn of such a query takes back the handlers of its batch and no others. -/
theorem WriteFails.beginQuery_eq (h : c.WriteFails ops batch n e) (hc : c.Coherent) :
    c.beginQuery ops = {
      connection := {
        c with
        correlator := {
          (stamp c.correlator batch.bytes batch.awaiting).2.1 with pending := c.correlator.pending }
        outbound := ⟨some (0, e)⟩ }
      sent := (stamp c.correlator batch.bytes batch.awaiting).2.2.take n
      result := .error (.transport (.io e))
      duties := (ops.filterMap Operation.handler).map (.tell · (c.writeFailure e)) ++
        [.fail (c.writeFailure e).reason] } := by
  simp only [beginQuery, h.encoded]
  split
  next hClosed =>
    rw [h.opened] at hClosed
    cases hClosed
  · simp only [h.write, h.taken hc]

/-- As a whole it tells everybody in its batch and everybody who waited before, and closes the
connection. -/
theorem WriteFails.query_eq (h : c.WriteFails ops batch n e) (hc : c.Coherent) :
    c.query ops = {
      connection := {
        c with
        closed := some (c.writeFailure e)
        correlator := ⟨(stamp c.correlator batch.bytes batch.awaiting).2.1.lastId, []⟩
        inbound := c.inbound.close .ended
        outbound := ⟨some (0, e)⟩ }
      told := (ops.filterMap Operation.handler ++ c.correlator.waiting).map
        (·, .lost (c.writeFailure e))
      sent := (stamp c.correlator batch.bytes batch.awaiting).2.2.take n
      result := .error (.transport (.io e)) } := by
  simp only [query, h.encoded]
  split
  next hClosed =>
    rw [h.opened] at hClosed
    cases hClosed
  · simp only [h.write, h.taken hc, fail, h.opened, Option.getD_none, Correlator.drain,
      Correlator.waiting, List.map_append, List.map_map]
    rfl

end

end Connection

/-! ### Reading comes to its end -/

theorem Source.ending_close_ne_live (s : Source) : (s.close .ended).ending ≠ .live := by
  unfold close
  split
  · nofun
  next hEnding => exact hEnding

theorem Source.live_of_take_waiting {s rest : Source} {n : Nat} (h : s.take n = (.waiting, rest)) :
    s.ending = .live := by
  unfold take at h
  dsimp only at h
  split at h
  · cases h
  · split at h
    next hEnding => exact hEnding
    next => cases h
    next => cases h

namespace ReplyFrame

variable {s rest : Source}

theorem live_of_read_waiting {maxMessageSize : Nat}
    (h : read maxMessageSize s = (.waiting, rest)) : s.ending = .live := by
  unfold read at h
  split at h
  next => split at h <;> cases h
  next => cases h
  next hTake => exact Source.live_of_take_waiting hTake

theorem live_of_readDocument_waiting {frame : ReplyFrame}
    (h : frame.readDocument s = (.waiting, rest)) : s.ending = .live := by
  unfold readDocument at h
  split at h
  · cases h
  · split at h
    next front afterFront hFront =>
      dsimp only at h
      split at h
      · cases h
      · split at h
        · cases h
        · split at h
          next => cases h
          next => cases h
          next hBack =>
            have hLive := Source.live_of_take_waiting hBack
            rwa [(Source.eq_of_take_done hFront).2.2] at hLive
    next => cases h
    next hFront => exact Source.live_of_take_waiting hFront

end ReplyFrame

namespace Connection

variable {c : Connection P H}

/-- Reading waits only for a source that is live. -/
theorem live_of_readStep_none (h : c.readStep = none) (hRunning : c.phase ≠ .stopped) :
    c.inbound.ending = .live := by
  unfold readStep at h
  split at h
  next hPhase => exact absurd hPhase hRunning
  next =>
    split at h
    next hRead => exact ReplyFrame.live_of_read_waiting hRead
    next => cases h
    next => split at h <;> cases h
  next =>
    split at h
    · split at h
      next hRead => exact ReplyFrame.live_of_readDocument_waiting hRead
      next => cases h
      next => cases h
    · split at h <;> cases h

theorem ended_of_readStep {r : Reaction P H Unit} (h : c.readStep = some r)
    (hEnded : c.inbound.ending ≠ .live) :
    r.connection.phase = .stopped ∨ r.connection.inbound.ending ≠ .live := by
  cases reads_of_readStep h with
  | frame _ hRead _ =>
    obtain ⟨_, _, _, hSource, _⟩ := ReplyFrame.read_eq_done_iff.mp hRead
    rw [hSource] at hEnded
    exact .inr hEnded
  | abandoned _ _ _ => exact .inl rfl
  | document _ _ hRead =>
    obtain ⟨_, _, hSource, _⟩ := ReplyFrame.readDocument_eq_done_iff.mp hRead
    rw [hSource] at hEnded
    exact .inr hEnded
  | complete _ _ _ => exact .inr hEnded
  | stop _ _ _ => exact .inl (phase_stopReading _ _ _)

theorem phase_settle_of_ended (hEnded : c.inbound.ending ≠ .live) :
    c.settle.connection.phase = .stopped := by
  induction c using Connection.settle.induct with
  | case1 c hStep =>
    rw [settle_of_none hStep]
    by_contra hRunning
    exact hEnded (live_of_readStep_none hStep hRunning)
  | case2 c r hStep ih =>
    rw [settle_of_some hStep]
    rcases ended_of_readStep hStep hEnded with hStopped | hStill
    · rw [settle_of_stopped hStopped]
      exact hStopped
    · exact ih hStill

/-- Reading leaves a closed connection as it was closed. -/
theorem Coherent.settle_of_closed [PoolEntry P] (hc : c.Coherent) {lost : ConnectionLost}
    (hClosed : c.closed = some lost) : c.settle.connection.correlator.pending = [] := by
  obtain ⟨_, hRun, _⟩ := Run.settle (.refl : Run c [] c)
  obtain ⟨_, hReading, _⟩ := hRun.yields
  rw [(hReading.closed hClosed hc).2.1]
  exact hc.empty_of_closed hClosed

theorem Standing.settle [DecidableEq H] {h : H} {times : Nat} {calls : List Notice}
    (hs : Standing c h times calls) (hc : c.Coherent) (hOnce : times ≤ 1) :
    Standing c.settle.connection h times (calls ++ callsOf h c.settle.told) := by
  induction c using Connection.settle.induct generalizing calls with
  | case1 c hStep =>
    rw [settle_of_none hStep]
    show Standing c h times (calls ++ [])
    rwa [List.append_nil]
  | case2 c r hStep ih =>
    rw [settle_of_some hStep, callsOf_append, ← List.append_assoc]
    exact ih (hs.read hc hOnce hStep) (hc.read hStep)

end Connection

/-! ### With other operations in between -/

namespace Shared

open Connection (Standing)

variable [PoolEntry P] {start s s' : Shared P H} {log : List (Moment P H)}

/-- A query begins, and then the connection, still open, is marked for the loss of its batch; before
and after that anything else can happen. -/
inductive TearsDown (s : Shared P H) (ops : List (Operation H)) (lost : ConnectionLost)
    (marked s' : Shared P H) : List (Moment P H) → Prop
  | intro {begun after : Shared P H} {gap more : List (Moment P H)}
      (begins : s.Moves (.begin (.query ops)) begun) (goesOn : Interleaved begun gap marked)
      (opened : marked.connection.closed = none)
      (marks : marked.Moves (.goOn (.fail lost.reason)) after) (ends : Interleaved after more s') :
      TearsDown s ops lost marked s' (⟨s.connection, .begin (.query ops)⟩ ::
        (gap ++ ⟨marked.connection, .goOn (.fail lost.reason)⟩ :: more))

/-- What becomes of a connection and of its handlers when a write has failed.  Those of the batch
and those that wait when the connection is marked are told of the loss, or will be, and nothing
else.  Those that the reading side had taken out by then are left to it. -/
structure Resolved [DecidableEq H] (lost : ConnectionLost) (batch : List H)
    (s marked s' : Shared P H) (log rest : List (Moment P H)) : Prop where
  closed : s'.connection.closed = some lost
  empty : s'.connection.correlator.pending = []
  told : ∀ h ∈ batch ++ marked.connection.correlator.waiting,
    callsOf h (heard (log ++ rest)) ++ s'.owed h = [.lost lost]
  read : ∀ h, h ∈ s.connection.correlator.waiting ∨ s.connection.inHand = some h →
    h ∉ marked.connection.correlator.waiting →
    (∀ moment ∈ rest, callsOf h moment.turn.told ≠ [] → moment.move = .begin .read) ∧
      s'.owed h = [] ∧
      (s'.connection.phase = .stopped → Ended (callsOf h (heard (log ++ rest))))

/-- Who waits when an open connection is marked is owed the loss that is recorded. -/
theorem Moves.mark_open [DecidableEq H] {reason : String}
    (hMoves : s.Moves (.goOn (.fail reason)) s') (hc : s.connection.Coherent)
    (hOpen : s.connection.closed = none) :
    s'.connection = {
      s.connection with
      closed := some ⟨s.connection.address, reason⟩
      correlator := s.connection.correlator.drain.2 } ∧
    ∀ h, s.owed h = [] → s'.owed h =
      List.replicate (s.connection.waits h) (.lost ⟨s.connection.address, reason⟩) := by
  have hTurn : s.connection.turn (.goOn (.fail reason)) = s.connection.markClosed reason :=
    if_pos (hc.referenced hOpen)
  have hLost : s.connection.closed.getD ⟨s.connection.address, reason⟩ =
      ⟨s.connection.address, reason⟩ := by rw [hOpen]; rfl
  constructor
  · rw [hMoves.connection, hTurn, Connection.markClosed, hLost]
  · intro h hNothing
    obtain ⟨others, hBefore, hAfter⟩ := hMoves.outstanding
    have hOwed := perm_owed hBefore h
    have hOwes := perm_owed hAfter h
    rw [hNothing] at hOwed
    obtain ⟨_, hOthers⟩ := List.append_eq_nil_iff.mp hOwed.symm.eq_nil
    rw [hTurn, Connection.due_markClosed, hLost, callsOf_map, hOthers, List.append_nil] at hOwes
    exact List.perm_replicate.mp hOwes

variable {marked : Shared P H} {ops : List (Operation H)} {batch : Batch H} {n : Nat}
  {e : IoError} {lost : ConnectionLost} {rest : List (Moment P H)} {h : H}

theorem TearsDown.begins (hTears : TearsDown s ops lost marked s' rest) :
    ∃ begun tail, s.Moves (.begin (.query ops)) begun ∧ Interleaved begun tail s' ∧
      rest = ⟨s.connection, .begin (.query ops)⟩ :: tail := by
  obtain ⟨hBegins, hGoesOn, _, hMarks, hEnds⟩ := hTears
  have hTail := (hGoesOn.next hMarks).trans hEnds
  rw [List.append_assoc] at hTail
  exact ⟨_, _, hBegins, hTail, rfl⟩

theorem TearsDown.marks (hTears : TearsDown s ops lost marked s' rest) :
    ∃ first after more, Interleaved s first marked ∧ marked.connection.closed = none ∧
      marked.Moves (.goOn (.fail lost.reason)) after ∧ Interleaved after more s' ∧
      rest = first ++ ⟨marked.connection, .goOn (.fail lost.reason)⟩ :: more := by
  obtain ⟨hBegins, hGoesOn, hOpen, hMarks, hEnds⟩ := hTears
  exact ⟨_, _, _, (Interleaved.refl.next hBegins).trans hGoesOn, hOpen, hMarks, hEnds, rfl⟩

variable [DecidableEq H]

/-- A handler of the batch is told of the failed write and of nothing else. -/
theorem TearsDown.told_batch (hTears : TearsDown s ops (s.connection.writeFailure e) marked s' rest)
    (run : Interleaved start log s) (hc : start.connection.Coherent) (hFresh : Place start h 0 [])
    (hFails : s.connection.WriteFails ops batch n e) (hOnce : (entrusted (log ++ rest)).Nodup)
    (hMem : h ∈ ops.filterMap Operation.handler) :
    callsOf h (heard (log ++ rest)) ++ s'.owed h = [.lost (s.connection.writeFailure e)] := by
  obtain ⟨begun, tail, hBegins, hTail, rfl⟩ := hTears.begins
  have hcNow := run.coherent hc
  have hTurn : s.connection.turn (.begin (.query ops)) = _ := hFails.beginQuery_eq hcNow
  have hAccepted :
      (Move.begin (.query ops) : Move P H).accepted = ops.filterMap Operation.handler := by
    rw [Move.accepted, Event.accepted_of_ok hFails.encoded, Batch.handlers_awaiting hFails.encoded]
  -- the handler is handed over in this batch and nowhere else
  have hCount := List.nodup_iff_count_le_one.mp hOnce h
  have hHere := List.count_pos_iff.mpr hMem
  rw [List.append_cons, entrusted_append, entrusted_append, entrusted_singleton, List.count_append,
    List.count_append] at hCount
  dsimp only at hCount
  rw [hAccepted] at hCount
  obtain ⟨hBefore, hBatch, hLater⟩ : (entrusted log).count h = 0 ∧
      (ops.filterMap Operation.handler).count h = 1 ∧ (entrusted tail).count h = 0 := by omega
  obtain ⟨hAwayFirst, hOwed⟩ := hFresh.away
  obtain ⟨hAway, hPerm⟩ := run.away hc hAwayFirst (s.connection.writeFailure e) (.inr hBefore)
  rw [hOwed, hBefore] at hPerm
  obtain ⟨hSilent, hNothing⟩ := List.append_eq_nil_iff.mp hPerm.eq_nil
  have hBegun : begun.connection.Away h := by
    rw [hBegins.connection, hTurn]
    exact ⟨hAway.waits, hAway.held⟩
  have hOwes : begun.owed h = [.lost (s.connection.writeFailure e)] := by
    obtain ⟨others, hLeft, hAfter⟩ := hBegins.outstanding
    have hWas := perm_owed hLeft h
    have hIs := perm_owed hAfter h
    rw [hNothing] at hWas
    obtain ⟨_, hOthers⟩ := List.append_eq_nil_iff.mp hWas.symm.eq_nil
    rw [hTurn, due_append, due_tells, callsOf_append, callsOf_map, hBatch, hOthers] at hIs
    exact List.perm_singleton.mp hIs
  obtain ⟨_, hAll⟩ := hTail.away (hBegins.coherent hcNow) hBegun (s.connection.writeFailure e)
    (.inr hLater)
  rw [hOwes, hLater] at hAll
  have hQuiet : callsOf h ((⟨s.connection, .begin (.query ops)⟩ : Moment P H).turn.told) = [] := by
    rw [Moment.turn, hTurn]
    rfl
  rw [List.append_cons, heard_append, heard_append, heard_singleton, callsOf_append, callsOf_append,
    hSilent, hQuiet]
  exact List.perm_singleton.mp hAll

/-- A handler that still waits when the connection is marked is told of the failed write and of
nothing else. -/
theorem TearsDown.told_waiting (hTears : TearsDown s ops lost marked s' rest)
    (run : Interleaved start log s) (hc : start.connection.Coherent) (hFresh : Place start h 0 [])
    (hAddress : lost.address = s.connection.address) (hOnce : (entrusted (log ++ rest)).Nodup)
    (hMem : h ∈ marked.connection.correlator.waiting) :
    callsOf h (heard (log ++ rest)) ++ s'.owed h = [.lost lost] := by
  obtain ⟨first, after, more, hFirst, hOpen, hMarks, hEnds, rfl⟩ := hTears.marks
  have hUpTo := run.trans hFirst
  have hcMarked := hUpTo.coherent hc
  have hCount := List.nodup_iff_count_le_one.mp hOnce h
  rw [← List.append_assoc, List.append_cons, entrusted_append, entrusted_append,
    entrusted_singleton, List.count_append, List.count_append] at hCount
  dsimp only at hCount
  obtain ⟨hOne, hNothing, hStands⟩ :=
    (hUpTo.place hc hFresh (by omega)).standing_of_held (.inl hMem)
  have hLater : (entrusted more).count h = 0 := by omega
  have hSame : (⟨marked.connection.address, lost.reason⟩ : ConnectionLost) = lost := by
    rw [hFirst.address, ← hAddress]
  obtain ⟨hMarked, hOwes⟩ := hMarks.mark_open hcMarked hOpen
  have hWaits : 0 < marked.connection.waits h := List.count_pos_iff.mpr hMem
  generalize hCalls : callsOf h (heard (log ++ first)) = calls at hStands
  cases hStands with
  | waiting hWaitsOnce hHeld =>
    have hOwed := hOwes h hNothing
    rw [hWaitsOnce, hSame] at hOwed
    have hAway : after.connection.Away h := by
      rw [hMarked]
      exact Connection.away_iff.mpr ⟨rfl, hHeld⟩
    obtain ⟨_, hAll⟩ := hEnds.away (hMarks.coherent hcMarked) hAway lost (.inr hLater)
    rw [hOwed, hLater] at hAll
    have hQuiet : callsOf h (heard [(⟨marked.connection, .goOn (.fail lost.reason)⟩ :
        Moment P H)]) = [] := by
      rw [heard_singleton, Moment.turn, Connection.turn, if_pos (hcMarked.referenced hOpen)]
      rfl
    rw [← List.append_assoc, List.append_cons, heard_append, heard_append, callsOf_append,
      callsOf_append, hCalls, hQuiet]
    exact List.perm_singleton.mp hAll
  | served hNone _ => omega
  | ended hNone _ _ => omega

/-- A handler that the reading side has taken out before the connection is marked is told by the
reading side alone, and its story ends when reading does. -/
theorem TearsDown.left_to_reading (hTears : TearsDown s ops lost marked s' rest)
    (run : Interleaved start log s) (hc : start.connection.Coherent) (hFresh : Place start h 0 [])
    (hOnce : (entrusted (log ++ rest)).Nodup)
    (hHeld : h ∈ s.connection.correlator.waiting ∨ s.connection.inHand = some h)
    (hTaken : h ∉ marked.connection.correlator.waiting) (hClosed : s'.connection.isClosed = true) :
    (∀ moment ∈ rest, callsOf h moment.turn.told ≠ [] → moment.move = .begin .read) ∧
      s'.owed h = [] ∧
      (s'.connection.phase = .stopped → Ended (callsOf h (heard (log ++ rest)))) := by
  obtain ⟨first, after, more, hFirst, hOpen, hMarks, hEnds, rfl⟩ := hTears.marks
  have hcNow := run.coherent hc
  have hCount := List.nodup_iff_count_le_one.mp hOnce h
  have hRun : Interleaved start (log ++ (first ++
      ⟨marked.connection, .goOn (.fail lost.reason)⟩ :: more)) s' := by
    rw [List.append_cons]
    exact run.trans ((hFirst.next hMarks).trans hEnds)
  have hPlace := hRun.place hc hFresh hCount
  rw [entrusted_append, List.count_append] at hCount hPlace
  obtain ⟨hOne, hNothing, _⟩ := (run.place hc hFresh (by omega)).standing_of_held hHeld
  have hLater : (entrusted (first ++
      ⟨marked.connection, .goOn (.fail lost.reason)⟩ :: more)).count h = 0 := by omega
  have hNever := List.count_eq_zero.mp hLater
  rw [entrusted_append, List.mem_append, not_or] at hNever
  obtain ⟨hNothingYet, hReadFirst⟩ := hFirst.spared hcNow hNothing hNever.1 (.inl hOpen)
  have hAfter : Interleaved marked (⟨marked.connection, .goOn (.fail lost.reason)⟩ :: more) s' :=
    (Interleaved.refl.next hMarks).trans hEnds
  obtain ⟨hNothingLeft, hReadAfter⟩ :=
    hAfter.spared (hFirst.coherent hcNow) hNothingYet hNever.2 (.inr hTaken)
  refine ⟨List.forall_mem_append.mpr ⟨hReadFirst, hReadAfter⟩, hNothingLeft, ?_⟩
  intro hStopped
  rw [hOne, hLater] at hPlace
  cases hPlace with
  | connected hStands _ =>
    apply hStands.over
    · rw [Connection.waits, Correlator.waiting, (hRun.coherent hc).drained hClosed]
      rfl
    · rw [Connection.held, Connection.inHand, hStopped]
      rfl
  | due _ _ _ _ hOwes =>
    rw [hNothingLeft] at hOwes
    cases hOwes

/-- The handler in hand is not told of the failed write, and reading on ends its story. -/
theorem Interleaved.reads_on (run : Interleaved start log s) (hc : start.connection.Coherent)
    (hFresh : Place start h 0 []) (hFails : s.connection.WriteFails ops batch n e)
    (hHand : s.connection.inHand = some h)
    (hOnce : (entrusted log ++ ops.filterMap Operation.handler).Nodup) :
    callsOf h (s.connection.query ops).told = [] ∧
      Ended (callsOf h (heard log) ++
        callsOf h (s.connection.query ops).connection.settle.told) := by
  have hcNow := run.coherent hc
  have hWhole := hFails.query_eq hcNow
  have hCount := List.nodup_iff_count_le_one.mp hOnce h
  rw [List.count_append] at hCount
  obtain ⟨hOne, _, hStands⟩ :=
    (run.place hc hFresh (by omega)).standing_of_held (.inr hHand)
  have hNew : (ops.filterMap Operation.handler).count h = 0 := by omega
  have hWaits : s.connection.waits h = 0 := by
    have hHeld : s.connection.held h = 1 := by simp [Connection.held, hHand]
    generalize callsOf h (heard log) = calls at hStands
    cases hStands with
    | waiting _ hNone => omega
    | served hNone _ => exact hNone
    | ended hNone _ _ => exact hNone
  have hUntold : callsOf h (s.connection.query ops).told = [] := by
    rw [hWhole, callsOf_map, List.count_append, hNew, Nat.zero_add]
    show List.replicate (s.connection.waits h) _ = []
    rw [hWaits]
    rfl
  refine ⟨hUntold, ?_⟩
  have hAccepted : (Event.query ops : Event P H).accepted.count h = 0 := by
    rw [Event.accepted_of_ok hFails.encoded, Batch.handlers_awaiting hFails.encoded, hNew]
  have hAfter := hStands.query hcNow hFails.returns (by omega) (Connection.queried_of_query rfl)
  rw [hAccepted, hUntold, List.append_nil] at hAfter
  have hcAfter := hcNow.query hFails.returns (Connection.queried_of_query rfl)
  have hSettled := hAfter.settle hcAfter (by omega)
  apply hSettled.over
  · rw [Connection.waits, Correlator.waiting, hcAfter.settle_of_closed (by rw [hWhole])]
    rfl
  · rw [Connection.held, Connection.inHand, Connection.phase_settle_of_ended]
    · rfl
    · rw [hWhole]
      exact Source.ending_close_ne_live _

theorem TearsDown.resolved (hTears : TearsDown s ops (s.connection.writeFailure e) marked s' rest)
    (run : Interleaved start log s) (hc : start.connection.Coherent)
    (hFresh : ∀ h, Place start h 0 []) (hFails : s.connection.WriteFails ops batch n e)
    (hOnce : (entrusted (log ++ rest)).Nodup) :
    Resolved (s.connection.writeFailure e) (ops.filterMap Operation.handler) s marked s' log
      rest := by
  have hClosed : s'.connection.closed = some (s.connection.writeFailure e) := by
    obtain ⟨first, after, more, hFirst, hOpen, hMarks, hEnds, _⟩ := hTears.marks
    have hcMarked := hFirst.coherent (run.coherent hc)
    refine (hEnds.closed ?_ (hMarks.coherent hcMarked)).1
    rw [(hMarks.mark_open hcMarked hOpen).1, hFirst.address]
    rfl
  refine ⟨hClosed, ?_, ?_, ?_⟩
  · obtain ⟨_, _, hBegins, hTail, rfl⟩ := hTears.begins
    have hRun := (run.next hBegins).trans hTail
    exact (hRun.coherent hc).empty_of_closed hClosed
  · intro h hMem
    rcases List.mem_append.mp hMem with hBatch | hWaiting
    · exact hTears.told_batch run hc (hFresh h) hFails hOnce hBatch
    · exact hTears.told_waiting run hc (hFresh h) rfl hOnce hWaiting
  · intro h hHeld hTaken
    exact hTears.left_to_reading run hc (hFresh h) hOnce hHeld hTaken
      (by rw [Connection.isClosed, hClosed]; rfl)

/-- When the write of a batch fails after any part of it, the query reports that failure, and with
nothing in between it tells everybody in the batch and everybody who waited before of the one loss,
and closes the connection for it.  Reading then comes to its end, which ends the story of the
handler that it has in hand.  With other operations in between the same holds of those who wait when
the connection is marked; whom the reading side has taken out by then it alone tells anything. -/
theorem failed_write_is_told_once {address : String} {maxMessageSize : Nat} {pool : P}
    {lastId : UInt32}
    (run : Interleaved
      ⟨{ Connection.opened address maxMessageSize pool with correlator := { lastId } }, []⟩ log s)
    (hFails : s.connection.WriteFails ops batch n e) :
    let lost : ConnectionLost := ⟨address, "write failed: " ++ e.message⟩
    let stamped := Connection.stamp s.connection.correlator batch.bytes batch.awaiting
    let handlers := ops.filterMap Operation.handler
    let whole := s.connection.query ops
    let turn := s.connection.beginQuery ops
    whole = {
      connection := {
        s.connection with
        closed := some lost, correlator := ⟨stamped.2.1.lastId, []⟩,
        inbound := s.connection.inbound.close .ended, outbound := ⟨some (0, e)⟩ }
      told := (handlers ++ s.connection.correlator.waiting).map (·, .lost lost)
      sent := stamped.2.2.take n
      result := .error (.transport (.io e)) } ∧
    whole.connection.settle.connection.phase = .stopped ∧
    (∀ h, s.connection.inHand = some h → (entrusted log ++ handlers).Nodup →
      callsOf h whole.told = [] ∧
        Ended (callsOf h (heard log) ++ callsOf h whole.connection.settle.told)) ∧
    turn.result = .error (.transport (.io e)) ∧ turn.sent = stamped.2.2.take n ∧
    ∀ marked s' rest, TearsDown s ops lost marked s' rest → (entrusted (log ++ rest)).Nodup →
      Resolved lost handlers s marked s' log rest := by
  intro lost stamped handlers whole turn
  have hc : ({ Connection.opened address maxMessageSize pool with correlator := { lastId } } :
      Connection P H).Coherent := ⟨.empty lastId, nofun, nofun, nofun⟩
  have hLost : s.connection.writeFailure e = lost := by
    rw [Connection.writeFailure, run.address]
    rfl
  have hFresh (h : H) : Place ⟨{ Connection.opened address maxMessageSize pool with
      correlator := { lastId } }, []⟩ h 0 [] := .connected (.unknown rfl rfl) rfl
  have hWhole := hFails.query_eq (run.coherent hc)
  have hTurn := hFails.beginQuery_eq (run.coherent hc)
  refine ⟨?_, ?_, ?_, ?_, ?_, ?_⟩
  · rw [← hLost]
    exact hWhole
  · apply Connection.phase_settle_of_ended
    show (s.connection.query ops).connection.inbound.ending ≠ .live
    rw [hWhole]
    exact Source.ending_close_ne_live _
  · intro h hHand hOnce
    exact run.reads_on hc (hFresh h) hFails hHand hOnce
  · exact congrArg (fun t => t.result) hTurn
  · exact congrArg (fun t => t.sent) hTurn
  · intro marked s' rest hTears hOnce
    rw [← hLost] at hTears ⊢
    exact hTears.resolved run hc hFresh hFails hOnce

/-- A connection that has just given out the largest id. -/
def lastIdGiven : Connection Unit Nat :=
  { Connection.opened "db" 100 () with correlator := { lastId := 4294967295 } }

/-- A write fails in the middle of a reply, after the counter of the ids has wrapped around. -/
theorem failed_write_in_a_reply : ∃ (_ : PoolEntry Unit) (log rest : List (Moment Unit Nat))
    (batch : Batch Nat) (s marked s' : Shared Unit Nat),
    Interleaved ⟨lastIdGiven, []⟩ log s ∧
      s.connection.WriteFails [asking 9] batch 10 .brokenPipe ∧ s.connection.inHand = some 7 ∧
      TearsDown s [asking 9] ⟨"db", "write failed: Broken pipe (os error 32)"⟩ marked s' rest ∧
      (entrusted (log ++ rest)).Nodup ∧ s'.connection.phase = .stopped ∧
      (s.connection.query [asking 9]).told =
        [9, 8].map (·, .lost ⟨"db", "write failed: Broken pipe (os error 32)"⟩) ∧
      (∀ h ∈ [9, 8], callsOf h (heard (log ++ rest)) ++ s'.owed h =
        [.lost ⟨"db", "write failed: Broken pipe (os error 32)"⟩]) ∧
      Ended (callsOf 7 (heard (log ++ rest))) := by
  let pools : PoolEntry Unit := ⟨fun _ => "pool"⟩
  let lost : ConnectionLost := ⟨"db", "write failed: Broken pipe (os error 32)"⟩
  let asked : Connection Unit Nat :=
    { lastIdGiven with correlator := { lastId := 2, pending := [(1, 7), (2, 8)] } }
  let begun : Connection Unit Nat :=
    { lastIdGiven with
      correlator := { lastId := 2, pending := [(2, 8)] }
      inbound := ⟨[5, 0], .live⟩
      phase := .inReply ⟨1, ⟨0, 0, 0, 1⟩, 41, 36⟩ (some 7) 0 }
  let full : Connection Unit Nat := { begun with outbound := ⟨some (10, .brokenPipe)⟩ }
  let torn : Connection Unit Nat :=
    { begun with
      correlator := { lastId := 3, pending := [(2, 8)] }, outbound := ⟨some (0, .brokenPipe)⟩ }
  let dead : Connection Unit Nat := { torn with closed := some lost, correlator := { lastId := 3 } }
  let shut : Connection Unit Nat := { dead with inbound := ⟨[5, 0], .ended⟩ }
  have hRoom : 0 + 2 < UInt32.size := by decide
  have hAsked : Interleaved ⟨lastIdGiven, []⟩ _ ⟨asked, []⟩ := .advance .refl
    (.begin (.query [asking 7, asking 8]) ⟨rfl, Connection.returns_of_room hRoom⟩) rfl
  have hArrived : Interleaved ⟨lastIdGiven, []⟩ _ ⟨{ asked with inbound := ⟨cutReply, .live⟩ }, []⟩ :=
    hAsked.advance (.begin (.arrive cutReply) trivial) rfl
  have hReads : ({ asked with inbound := ⟨cutReply, .live⟩ } : Connection Unit Nat).turn
      (.begin .read) = { connection := begun, result := .ok () } := by
    show Connection.beginRead { asked with inbound := ⟨cutReply, .live⟩ } = _
    rw [Connection.beginRead, Connection.readFailure?, Connection.perform,
      Connection.readStep_frame rfl rfl read_cutReply]
    rfl
  have hBegun : Interleaved ⟨lastIdGiven, []⟩ _ ⟨begun, []⟩ :=
    hArrived.advance (.begin .read trivial) (by rw [hReads]; rfl)
  have hFull : Interleaved ⟨lastIdGiven, []⟩ _ ⟨full, []⟩ :=
    hBegun.advance (.begin (.restrict ⟨some (10, .brokenPipe)⟩) trivial) rfl
  have hReturns : full.Returns [asking 9] :=
    Connection.returns_of_room (show 1 + 1 < UInt32.size by decide)
  obtain ⟨batch, hEncode, hPart⟩ : ∃ batch : Batch Nat,
      Batch.encode [] [asking 9] = .ok batch ∧ 10 < batch.bytes.length := ⟨_, rfl, by decide⟩
  have hFails : full.WriteFails [asking 9] batch 10 .brokenPipe :=
    ⟨hEncode, hReturns, rfl, rfl, hPart⟩
  have hBegins : (⟨full, []⟩ : Shared Unit Nat).Moves (.begin (.query [asking 9]))
      ⟨torn, [[.tell 9 lost, .fail lost.reason]]⟩ := .begin (.query [asking 9]) ⟨rfl, hReturns⟩
  have hTold : Interleaved ⟨torn, [[.tell 9 lost, .fail lost.reason]]⟩ _
      ⟨torn, [[.fail lost.reason]]⟩ := .advance .refl (.goOn (.tell 9 lost) [] rfl) rfl
  have hMarks : (⟨torn, [[.fail lost.reason]]⟩ : Shared Unit Nat).Moves (.goOn (.fail lost.reason))
      ⟨dead, [[.shutDown, .tell 8 lost]]⟩ := .goOn (.fail lost.reason) [] rfl
  have hShut : Interleaved ⟨dead, [[.shutDown, .tell 8 lost]]⟩ _ ⟨shut, [[.tell 8 lost]]⟩ :=
    .advance .refl (.goOn .shutDown [] rfl) rfl
  have hTears := TearsDown.intro hBegins hTold rfl hMarks (hShut.next (.begin .read trivial))
  have hRun : Interleaved ⟨{ Connection.opened "db" 100 () with
      correlator := { lastId := 4294967295 } }, []⟩ _ ⟨full, []⟩ := hFull
  obtain ⟨hWhole, _, _, _, _, hResolved⟩ := failed_write_is_told_once hRun hFails
  obtain ⟨_, _, hTold, hRead⟩ := hResolved _ _ _ hTears (by decide)
  refine ⟨pools, _, _, batch, _, _, _, hFull, hFails, rfl, hTears, by decide, rfl, ?_, ?_, ?_⟩
  · rw [hWhole]
    rfl
  · intro h hMem
    exact hTold h hMem
  · exact (hRead 7 (.inr rfl) (by decide)).2.2 rfl

end Shared

end DocumentLink
