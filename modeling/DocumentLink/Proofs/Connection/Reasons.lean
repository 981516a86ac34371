import DocumentLink.Proofs.Connection.Closure
import DocumentLink.Proofs.Connection.Dispatch

/-! Which losses a connection reports.  The loss that is recorded first stands, and it is the one
that a client closed or dropped the connection for, or that a failed read or write brought about.
It is what later queries are refused with and what the handlers that waited are told.  An operation
that fails by itself tells its own handlers of its own failure; that is the recorded loss as well
unless the connection is marked for another reason first. -/

namespace DocumentLink

variable {P H : Type}

namespace Connection

/-- A move fails by itself: the handlers that it tells of its failure, and the loss.  These are the
handler in hand when reading fails, and those of a batch of which the write fails. -/
inductive Fails (c : Connection P H) : Move P H → List H → ConnectionLost → Prop
  | reading {e : TransportError} {inbound : Source} (failed : c.readFailure? = some (e, inbound)) :
      Fails c (.begin .read) c.inHand.toList ⟨c.address, e.message⟩
  | writing {ops : List (Operation H)} {e : IoError}
      (failed : (c.beginQuery ops).result = .error (.transport (.io e))) :
      Fails c (.begin (.query ops)) (ops.filterMap Operation.handler) (c.writeFailure e)

/-- A move that has the connection closed, and the loss that it would record. -/
inductive Closes (c : Connection P H) : Move P H → ConnectionLost → Prop
  | client : Closes c (.begin .close) ⟨c.address, "closed by client"⟩
  | dropped : Closes c (.begin .drop) ⟨c.address, "socket dropped"⟩
  | failed {move : Move P H} {handlers : List H} {lost : ConnectionLost}
      (fails : Fails c move handlers lost) : Closes c move lost

theorem of_mem_tells {handlers : List H} {h : H} {lost other : ConnectionLost}
    (hMem : .tell h lost ∈ handlers.map (Duty.tell · other)) : h ∈ handlers ∧ lost = other := by
  obtain ⟨_, hHandler, hSame⟩ := List.mem_map.mp hMem
  cases hSame
  exact ⟨hHandler, rfl⟩

theorem closed_of_told_fail {c : Connection P H} {reason : String} {h : H} {lost : ConnectionLost}
    (hTold : (h, .lost lost) ∈ (c.fail reason).told) :
    (c.fail reason).connection.closed = some lost := by
  rw [told_fail] at hTold
  cases (of_mem_told hTold).2
  rfl

/-! ### One turn -/

variable [PoolEntry P] {c : Connection P H} {move : Move P H} {h : H} {lost : ConnectionLost}

theorem address_turn : (c.turn move).connection.address = c.address := by
  generalize hTurn : c.turn move = t
  cases hTurn ▸ c.turned_turn move with
  | read hStep hUnbroken =>
    cases reads_of_readStep hStep with
    | stop _ _ hFailed =>
      rw [hFailed] at hUnbroken
      cases hUnbroken
    | _ => rfl
  | _ => rfl

theorem Fails.of_batch {ops : List (Operation H)} {batch : Batch H} {e : IoError}
    (hEncode : Batch.encode [] ops = .ok batch)
    (hResult : (c.turn (.begin (.query ops))).result = .error (.transport (.io e))) :
    Fails c (.begin (.query ops)) (batch.awaiting.map Prod.snd) (c.writeFailure e) := by
  rw [Batch.handlers_awaiting hEncode]
  exact .writing hResult

/-- A loss that is told in a turn was due, or is the recorded one, or is the failure of the turn. -/
theorem lost_of_turn (hTold : (h, .lost lost) ∈ (c.turn move).told) :
    move = .goOn (.tell h lost) ∨ (c.turn move).connection.closed = some lost ∨
      ∃ handlers, Fails c move handlers lost ∧ h ∈ handlers := by
  generalize hTurn : c.turn move = t at hTold
  cases hTurn ▸ c.turned_turn move with
  | drop => exact .inr (.inl (closed_of_told_fail hTold))
  | broken hFailed =>
    obtain ⟨hHand, hSame⟩ := of_mem_told hTold
    cases hSame
    exact .inr (.inr ⟨_, .reading hFailed, hHand⟩)
  | read hStep hUnbroken =>
    cases reads_of_readStep hStep with
    | document _ _ _ => cases (of_mem_told hTold).2
    | complete _ _ _ => cases (of_mem_told hTold).2
    | stop _ _ hFailed =>
      rw [hFailed] at hUnbroken
      cases hUnbroken
    | _ => cases hTold
  | tell handler reason =>
    rw [List.mem_singleton] at hTold
    cases hTold
    exact .inl rfl
  | _ => cases hTold

/-- A loss that is left to be told is the recorded one or the failure of the turn. -/
theorem tell_of_turn (hc : c.Coherent) (hPossible : ∀ event, move = .begin event → c.Possible event)
    (hDuty : .tell h lost ∈ (c.turn move).duties) :
    (c.turn move).connection.closed = some lost ∨
      ∃ handlers, Fails c move handlers lost ∧ h ∈ handlers := by
  generalize hTurn : c.turn move = t at hDuty
  cases hTurn ▸ c.turned_turn move with
  | lost hEncode hClosed =>
    obtain ⟨_, rfl⟩ := of_mem_tells hDuty
    exact .inl hClosed
  | torn outbound e bytes hEncode hOpen hTaken =>
    rw [takeAll_stamp hc.sound _ ((hPossible _ rfl).2 _ hEncode hOpen)] at hTaken
    cases hTaken
    rcases List.mem_append.mp hDuty with hTell | hFail
    · obtain ⟨hUnsent, rfl⟩ := of_mem_tells hTell
      exact .inr ⟨_, Fails.of_batch hEncode (by rw [hTurn]), hUnsent⟩
    · rw [List.mem_singleton] at hFail
      cases hFail
  | close =>
    rw [List.mem_singleton] at hDuty
    cases hDuty
  | broken _ =>
    rw [List.mem_singleton] at hDuty
    cases hDuty
  | fail reason _ =>
    rw [duties_markClosed] at hDuty
    rcases List.mem_cons.mp hDuty with hShut | hTell
    · cases hShut
    · obtain ⟨_, rfl⟩ := of_mem_tells hTell
      exact .inl rfl
  | _ => cases hDuty

/-- A mark that is left to be made is that of a client, or of the failure of the turn. -/
theorem fail_of_turn {reason : String} (hDuty : .fail reason ∈ (c.turn move).duties) :
    Closes c move ⟨c.address, reason⟩ := by
  generalize hTurn : c.turn move = t at hDuty
  cases hTurn ▸ c.turned_turn move with
  | lost hEncode hClosed =>
    obtain ⟨_, _, hSame⟩ := List.mem_map.mp hDuty
    cases hSame
  | torn outbound e bytes hEncode hOpen hTaken =>
    rcases List.mem_append.mp hDuty with hTell | hFail
    · obtain ⟨_, _, hSame⟩ := List.mem_map.mp hTell
      cases hSame
    · rw [List.mem_singleton] at hFail
      cases hFail
      exact .failed (Fails.of_batch hEncode (by rw [hTurn]))
  | close =>
    rw [List.mem_singleton] at hDuty
    cases hDuty
    exact .client
  | broken hFailed =>
    rw [List.mem_singleton] at hDuty
    cases hDuty
    exact .failed (.reading hFailed)
  | fail reason _ =>
    rcases List.mem_cons.mp hDuty with hShut | hTell
    · cases hShut
    · obtain ⟨_, _, hSame⟩ := List.mem_map.mp hTell
      cases hSame
  | _ => cases hDuty

/-- A connection is marked by a drop or by a mark that was left to be made. -/
theorem closed_turn (hOpen : c.closed = none)
    (hClosed : (c.turn move).connection.closed = some lost) :
    (move = .begin .drop ∧ lost = ⟨c.address, "socket dropped"⟩) ∨
      ∃ reason, move = .goOn (.fail reason) ∧ lost = ⟨c.address, reason⟩ := by
  have hMark (reason : String) (hSame : some (c.closed.getD ⟨c.address, reason⟩) = some lost) :
      lost = ⟨c.address, reason⟩ := by
    rw [hOpen] at hSame
    exact (Option.some.inj hSame).symm
  have hStill {p : Prop} (hSame : c.closed = some lost) : p := by
    rw [hOpen] at hSame
    cases hSame
  generalize hTurn : c.turn move = t at hClosed
  cases hTurn ▸ c.turned_turn move with
  | drop => exact .inl ⟨rfl, hMark _ hClosed⟩
  | fail reason _ => exact .inr ⟨reason, rfl, hMark reason hClosed⟩
  | read hStep hUnbroken =>
    cases reads_of_readStep hStep with
    | stop _ _ hFailed =>
      rw [hFailed] at hUnbroken
      cases hUnbroken
    | _ => exact hStill hClosed
  | _ => exact hStill hClosed

theorem result_turn (hResult : (c.turn move).result = .error (.lost lost)) :
    c.closed = some lost := by
  generalize hTurn : c.turn move = t at hResult
  cases hTurn ▸ c.turned_turn move with
  | lost _ hClosed =>
    cases hResult
    exact hClosed
  | quiet _ _ _ _ _ _ hNoLoss => exact absurd hResult (hNoLoss lost)
  | _ => cases hResult

theorem Fails.duty {handlers : List H} (hFails : Fails c move handlers lost) :
    .fail lost.reason ∈ (c.turn move).duties := by
  cases hFails with
  | reading hFailed =>
    show _ ∈ c.beginRead.duties
    rw [beginRead, hFailed]
    exact List.mem_singleton_self _
  | @writing ops e hFailed =>
    show _ ∈ (c.beginQuery ops).duties
    generalize hTurn : c.beginQuery ops = t at hFailed
    cases hTurn ▸ c.turned_beginQuery ops with
    | torn _ _ _ _ _ _ =>
      cases hFailed
      exact List.mem_append_right _ (List.mem_singleton_self _)
    | quiet _ _ _ _ hNoQuery _ _ => exact absurd rfl (hNoQuery ops)
    | _ => cases hFailed

/-- A mark that is made leaves the connection closed. -/
theorem isClosed_of_fail (hc : c.Coherent) (reason : String) :
    (c.turn (.goOn (.fail reason))).connection.isClosed = true := by
  unfold turn
  dsimp only
  split
  · rfl
  next hGone => exact hc.disposed (by simpa using hGone)

end Connection

/-! ### Whole runs -/

namespace Shared

open Connection (Fails Closes)

variable [PoolEntry P] {start s s' : Shared P H} {log : List (Moment P H)}

theorem Interleaved.address (run : Interleaved start log s) :
    s.connection.address = start.connection.address := by
  induction run with
  | refl => rfl
  | next _ hMoves ih => rw [hMoves.connection, Connection.address_turn, ih]

/-- What is recorded at some moment of a run is recorded at its end. -/
theorem Interleaved.stands (run : Interleaved start log s) (hc : start.connection.Coherent)
    {moment : Moment P H} (hMem : moment ∈ log) {lost : ConnectionLost}
    (hClosed : moment.turn.connection.closed = some lost) : s.connection.closed = some lost := by
  obtain ⟨first, rest, rfl⟩ := List.append_of_mem hMem
  obtain ⟨before, after, hFirst, hBefore, hMove, hRest⟩ := run.split
  refine (hRest.closed ?_ (hMove.coherent (hFirst.coherent hc))).1
  rw [hMove.connection, hBefore]
  exact hClosed

/-- Every loss that is told or left to be told is the recorded one, or an operation told its own
handler of its own failure. -/
theorem Interleaved.promised (run : Interleaved start log s) (hc : start.connection.Coherent)
    (hIdle : start.outstanding = []) {h : H} {lost : ConnectionLost}
    (hLost : (h, .lost lost) ∈ heard log ∨ .tell h lost ∈ s.outstanding) :
    s.connection.closed = some lost ∨
      ∃ moment ∈ log, ∃ handlers, Fails moment.before moment.move handlers lost ∧ h ∈ handlers := by
  induction run with
  | refl =>
    rw [hIdle] at hLost
    rcases hLost with hHeard | hDue
    · cases hHeard
    · cases hDue
  | @next log s s' run move hMoves ih =>
    have hcNow := run.coherent hc
    -- what was settled before the move is settled after it
    have hBefore (hEarlier : (h, .lost lost) ∈ heard log ∨ .tell h lost ∈ s.outstanding) :
        s'.connection.closed = some lost ∨ ∃ moment ∈ log ++ [⟨s.connection, move⟩],
          ∃ handlers, Fails moment.before moment.move handlers lost ∧ h ∈ handlers := by
      rcases ih hEarlier with hClosed | ⟨moment, hMem, hFails⟩
      · exact .inl (hMoves.closed hClosed hcNow).1
      · exact .inr ⟨moment, List.mem_append_left _ hMem, hFails⟩
    have hHere (hOwn : ∃ handlers, Fails s.connection move handlers lost ∧ h ∈ handlers) :
        ∃ moment ∈ log ++ [⟨s.connection, move⟩],
          ∃ handlers, Fails moment.before moment.move handlers lost ∧ h ∈ handlers :=
      ⟨_, List.mem_append_right _ (List.mem_singleton_self _), hOwn⟩
    rw [hMoves.connection] at hBefore ⊢
    rw [heard_append, heard_singleton, List.mem_append] at hLost
    rcases hLost with (hEarlier | hTold) | hDue
    · exact hBefore (.inl hEarlier)
    · rcases Connection.lost_of_turn hTold with rfl | hClosed | hOwn
      · exact hBefore (.inr hMoves.due)
      · exact .inl hClosed
      · exact .inr (hHere hOwn)
    · rcases hMoves.left hDue with hNew | hOld
      · exact (Connection.tell_of_turn hcNow hMoves.possible hNew).imp_right hHere
      · exact hBefore (.inr hOld)

/-- Every mark that is left to be made, and the one that was made first, has its cause. -/
theorem Interleaved.marked (run : Interleaved start log s) (hc : start.connection.Coherent)
    (hIdle : start.outstanding = []) (hOpen : start.connection.closed = none)
    {lost : ConnectionLost} (hMark : s.connection.closed = some lost ∨
      lost.address = s.connection.address ∧ .fail lost.reason ∈ s.outstanding) :
    ∃ moment ∈ log, Closes moment.before moment.move lost := by
  induction run with
  | refl =>
    rw [hOpen, hIdle] at hMark
    rcases hMark with hClosed | ⟨_, hDue⟩
    · cases hClosed
    · cases hDue
  | @next log s s' run move hMoves ih =>
    have hBefore (hEarlier : s.connection.closed = some lost ∨
        lost.address = s.connection.address ∧ .fail lost.reason ∈ s.outstanding) :
        ∃ moment ∈ log ++ [⟨s.connection, move⟩], Closes moment.before moment.move lost := by
      obtain ⟨moment, hMem, hCloses⟩ := ih hEarlier
      exact ⟨moment, List.mem_append_left _ hMem, hCloses⟩
    have hHere (hCloses : Closes s.connection move lost) :
        ∃ moment ∈ log ++ [⟨s.connection, move⟩], Closes moment.before moment.move lost :=
      ⟨_, List.mem_append_right _ (List.mem_singleton_self _), hCloses⟩
    rw [hMoves.connection, Connection.address_turn] at hMark
    rcases hMark with hClosed | ⟨hAddress, hDue⟩
    · cases hOpenNow : s.connection.closed with
      | some earlier =>
        have hStays := (hMoves.closed hOpenNow (run.coherent hc)).1
        rw [hMoves.connection, hClosed] at hStays
        cases hStays
        exact hBefore (.inl hOpenNow)
      | none =>
        rcases Connection.closed_turn hOpenNow hClosed with ⟨rfl, rfl⟩ | ⟨reason, rfl, rfl⟩
        · exact hHere .dropped
        · exact hBefore (.inr ⟨rfl, hMoves.due⟩)
    · rcases hMoves.left hDue with hNew | hOld
      · have hCloses := Connection.fail_of_turn hNew
        rw [← hAddress] at hCloses
        exact hHere hCloses
      · exact hBefore (.inr ⟨hAddress, hOld⟩)

/-- An operation that fails by itself has the connection marked as closed before it is through. -/
theorem Interleaved.follows (run : Interleaved start log s) (hc : start.connection.Coherent)
    {moment : Moment P H} (hMem : moment ∈ log) {handlers : List H} {lost : ConnectionLost}
    (hFails : Fails moment.before moment.move handlers lost) :
    s.connection.isClosed = true ∨ .fail lost.reason ∈ s.outstanding := by
  induction run with
  | refl => cases hMem
  | @next log s s' run move hMoves ih =>
    have hcNow := run.coherent hc
    obtain ⟨others, hBefore, hAfter⟩ := hMoves.outstanding
    rcases List.mem_append.mp hMem with hEarlier | hNow
    · rcases ih hEarlier with hClosed | hDue
      · obtain ⟨recorded, hRecorded⟩ := Option.isSome_iff_exists.mp hClosed
        left
        rw [Connection.isClosed, (hMoves.closed hRecorded hcNow).1]
        rfl
      · rcases List.mem_append.mp (hBefore.mem_iff.mp hDue) with hDone | hOther
        · left
          cases move with
          | begin _ => cases hDone
          | goOn duty =>
            obtain rfl := List.mem_singleton.mp hDone
            rw [hMoves.connection]
            exact Connection.isClosed_of_fail hcNow _
        · exact .inr (hAfter.mem_iff.mpr (List.mem_append_right _ hOther))
    · rw [List.mem_singleton] at hNow
      subst hNow
      exact .inr (hAfter.mem_iff.mpr (List.mem_append_left _ hFails.duty))

end Shared

/-! ### Runs of whole operations -/

namespace Connection

variable [PoolEntry P] {c : Connection P H} {h : H} {lost : ConnectionLost}

theorem result_perform {event : Event P H} :
    (c.turn (.begin event)).result = (c.perform event).result := by
  cases event with
  | query ops =>
    show (c.beginQuery ops).result = (c.query ops).result
    unfold beginQuery query
    cases Batch.encode [] ops with
    | error e => rfl
    | ok batch =>
      dsimp only
      cases c.closed with
      | some lost => rfl
      | none =>
        dsimp only
        cases (c.outbound.write (stamp c.correlator batch.bytes batch.awaiting).2.2).2.1 <;> rfl
  | read =>
    show c.beginRead.result = (c.perform .read).result
    unfold beginRead
    split
    next hFailed =>
      unfold perform
      simp only [readStep_of_readFailure hFailed]
    next => rfl
  | _ => rfl

/-- A loss that a whole operation tells is the one that is recorded then, unless reading fails on a
connection that is closed already. -/
theorem lost_of_perform (hc : c.Coherent) {event : Event P H}
    (hTold : (h, .lost lost) ∈ (c.perform event).told) :
    (c.perform event).connection.closed = some lost ∨
      event = .read ∧ c.isClosed = true ∧ Fails c (.begin .read) [h] lost := by
  generalize hPerform : c.perform event = r at hTold
  cases performed_of_perform hPerform with
  | query hQueried =>
    cases hQueried with
    | closed _ hClosed =>
      cases (of_mem_told hTold).2
      exact .inl hClosed
    | torn _ _ _ _ _ _ =>
      cases (of_mem_told hTold).2
      exact .inl rfl
    | _ => cases hTold
  | close => exact .inl (closed_of_told_fail hTold)
  | drop => exact .inl (closed_of_told_fail hTold)
  | read hStep =>
    cases reads_of_readStep hStep with
    | document _ _ _ => cases (of_mem_told hTold).2
    | complete _ _ _ => cases (of_mem_told hTold).2
    | @stop inbound e _ hFailed =>
      have hOwn (hHand : (h, .lost lost) ∈
          c.inHand.toList.map (·, Notice.lost ⟨c.address, e.message⟩)) :
          lost = ⟨c.address, e.message⟩ ∧ Fails c (.begin .read) [h] lost := by
        obtain ⟨hMem, hSame⟩ := of_mem_told hHand
        cases hSame
        have hFails := Fails.reading hFailed
        rw [Option.mem_toList.mp hMem] at hFails
        exact ⟨rfl, hFails⟩
      unfold stopReading at hTold ⊢
      dsimp only at hTold ⊢
      split at hTold
      next hReferenced =>
        rw [if_pos hReferenced]
        rcases List.mem_append.mp hTold with hHand | hFail
        · obtain ⟨rfl, hFails⟩ := hOwn hHand
          cases hClosed : c.closed with
          | none => exact .inl rfl
          | some recorded => exact .inr ⟨rfl, by rw [isClosed, hClosed]; rfl, hFails⟩
        · exact .inl (closed_of_told_fail hFail)
      next hGone =>
        exact .inr ⟨rfl, hc.disposed (by simpa using hGone), (hOwn hTold).2⟩
    | _ => cases hTold
  | quiet _ _ _ _ _ => cases hTold

theorem closed_perform (hc : c.Coherent) {event : Event P H} (hPossible : c.Possible event)
    (hClosed : c.closed = some lost) : (c.perform event).connection.closed = some lost := by
  have hYields : Shared.Yields ⟨c, []⟩ _ _ _ := .perform hPossible
  obtain ⟨_, run, _⟩ := hYields
  exact (run.closed hClosed hc).1

/-- In a run of whole operations every loss is the recorded one but those that the handler in hand
is told when reading fails on a closed connection. -/
theorem Run.losses {start c : Connection P H} {log : List (Entry P H)} (run : Run start log c)
    (hc : start.Coherent) :
    (∀ entry ∈ log, ∀ lost, entry.reaction.result = .error (.lost lost) → c.closed = some lost) ∧
      ∀ h lost, (h, .lost lost) ∈ told log → c.closed = some lost ∨
        ∃ entry ∈ log, entry.before.isClosed = true ∧ entry.event = .read ∧
          Fails entry.before (.begin .read) [h] lost := by
  induction run with
  | refl => exact ⟨List.forall_mem_nil _, fun _ _ hLost => absurd hLost List.not_mem_nil⟩
  | @next log c run event hPossible ih =>
    obtain ⟨hResults, hTold⟩ := ih
    have hcNow := run.coherent hc
    constructor
    · intro entry hMem lost hResult
      rcases List.mem_append.mp hMem with hEarlier | hNow
      · exact closed_perform hcNow hPossible (hResults entry hEarlier lost hResult)
      · rw [List.mem_singleton] at hNow
        subst hNow
        exact closed_perform hcNow hPossible (result_turn (result_perform.trans hResult))
    · intro h lost hLost
      rw [told_concat, List.mem_append] at hLost
      rcases hLost with hEarlier | hNow
      · rcases hTold h lost hEarlier with hClosed | ⟨entry, hMem, hOwn⟩
        · exact .inl (closed_perform hcNow hPossible hClosed)
        · exact .inr ⟨entry, List.mem_append_left _ hMem, hOwn⟩
      · rcases lost_of_perform hcNow hNow with hClosed | ⟨rfl, hClosed, hFails⟩
        · exact .inl hClosed
        · exact .inr ⟨_, List.mem_append_right _ (List.mem_singleton_self _), hClosed, rfl, hFails⟩

end Connection

/-! ### The two exceptions -/

/-- A handler with a query of its own. -/
def asking (h : Nat) : Operation Nat :=
  .query { collection := "a", query := .document [], handler := some h }

theorem Connection.Run.advance [PoolEntry P] {start c c' : Connection P H} {log : List (Entry P H)}
    (run : Run start log c) (event : Event P H) (hPossible : c.Possible event)
    (h : (c.perform event).connection = c') : Run start (log ++ [⟨c, event⟩]) c' :=
  h ▸ run.next event hPossible

/-- The first bytes of a reply to request 1: its frame, and a part of its one document. -/
def cutReply : Bytes := (ReplyHeader.message ⟨0, 0, 0, 1⟩ 1 [[5, 0, 0, 0, 0]]).take 38

theorem read_cutReply : ReplyFrame.read 100 ⟨cutReply, .live⟩ =
    (.done ⟨1, ⟨0, 0, 0, 1⟩, 41, 36⟩, ⟨[5, 0], .live⟩) := rfl

/-- A client closes the connection in the middle of a reply. -/
theorem closed_in_reply [PoolEntry P] (pool : P) :
    ∃ (log : List (Connection.Entry P Nat)) (c : Connection P Nat),
      Connection.Run (.opened "db" 100 pool) log c ∧
      c.closed = some ⟨"db", "closed by client"⟩ ∧
      Connection.told log = [(8, .lost ⟨"db", "closed by client"⟩),
        (7, .lost ⟨"db", "Transport IO Error: failed to fill whole buffer"⟩)] := by
  let start : Connection P Nat := .opened "db" 100 pool
  let asked : Connection P Nat :=
    { start with correlator := { lastId := 2, pending := [(1, 7), (2, 8)] } }
  let begun : Connection P Nat :=
    { start with
      correlator := { lastId := 2, pending := [(2, 8)] }
      inbound := ⟨[5, 0], .live⟩, phase := .inReply ⟨1, ⟨0, 0, 0, 1⟩, 41, 36⟩ (some 7) 0 }
  let closed : Connection P Nat :=
    { begun with
      correlator := { lastId := 2 }, closed := some ⟨"db", "closed by client"⟩
      inbound := ⟨[5, 0], .ended⟩ }
  have hRoom : 0 + 2 < UInt32.size := by decide
  have hAsked : Connection.Run start _ asked :=
    .advance .refl (.query [asking 7, asking 8]) ⟨rfl, Connection.returns_of_room hRoom⟩ rfl
  have hArrived : Connection.Run start _ { asked with inbound := ⟨cutReply, .live⟩ } :=
    hAsked.advance (.arrive cutReply) trivial rfl
  have hReads : ({ asked with inbound := ⟨cutReply, .live⟩ } : Connection P Nat).perform .read =
      { connection := begun, result := .ok () } := by
    rw [Connection.perform, Connection.readStep_frame rfl rfl read_cutReply]
    rfl
  have hBegun : Connection.Run start _ begun := hArrived.advance .read trivial (by rw [hReads])
  have hClosed : Connection.Run start _ closed := hBegun.advance .close rfl rfl
  exact ⟨_, _, hClosed.next .read trivial, rfl, rfl⟩

/-- A client closes the connection between a failed write and the mark that belongs to it. -/
theorem closed_before_mark [PoolEntry P] (pool : P) :
    ∃ (log : List (Moment P Nat)) (s : Shared P Nat),
      Shared.Interleaved ⟨.opened "db" 100 pool, []⟩ log s ∧
      s.connection.closed = some ⟨"db", "closed by client"⟩ ∧
      heard log = [(7, .lost ⟨"db", "write failed: Broken pipe (os error 32)"⟩)] := by
  let atWrite : ConnectionLost := ⟨"db", "write failed: Broken pipe (os error 32)"⟩
  let start : Connection P Nat := .opened "db" 100 pool
  let full : Connection P Nat := { start with outbound := ⟨some (0, .brokenPipe)⟩ }
  let torn : Connection P Nat := { full with correlator := { lastId := 2 } }
  let closed : Connection P Nat := { torn with closed := some ⟨"db", "closed by client"⟩ }
  let telling : List (Duty Nat) := [.tell 7 atWrite, .tell 8 atWrite, .fail atWrite.reason]
  have hFull : Shared.Interleaved ⟨start, []⟩ _ ⟨full, []⟩ :=
    .advance .refl (.begin (.restrict ⟨some (0, .brokenPipe)⟩) trivial) rfl
  have hRoom : 0 + 2 < UInt32.size := by decide
  have hTorn : Shared.Interleaved ⟨start, []⟩ _ ⟨torn, [telling]⟩ :=
    hFull.advance (.begin (.query [asking 7, asking 8])
      ⟨rfl, Connection.returns_of_room hRoom⟩) rfl
  have hClosing : Shared.Interleaved ⟨start, []⟩ _ ⟨torn, [[.fail "closed by client"], telling]⟩ :=
    hTorn.advance (.begin .close rfl) rfl
  have hClosed : Shared.Interleaved ⟨start, []⟩ _ ⟨closed, [[.shutDown], telling]⟩ :=
    hClosing.advance (.goOn (.fail "closed by client") [] rfl) rfl
  exact ⟨_, _, hClosed.next (.goOn (.tell 7 atWrite) [[.shutDown]] rfl), rfl, rfl⟩

/-- The losses that one connection reports are not always the same: a handler whose reply had begun,
and one whose batch could not be sent, are told of another one than that which is recorded. -/
theorem not_one_loss : ∃ (_ : PoolEntry Unit),
    (∃ (log : List (Connection.Entry Unit Nat)) (c : Connection Unit Nat),
      Connection.Run (.opened "db" 100 ()) log c ∧
      c.closed = some ⟨"db", "closed by client"⟩ ∧
      Connection.told log = [(8, .lost ⟨"db", "closed by client"⟩),
        (7, .lost ⟨"db", "Transport IO Error: failed to fill whole buffer"⟩)]) ∧
    ∃ (log : List (Moment Unit Nat)) (s : Shared Unit Nat),
      Shared.Interleaved ⟨.opened "db" 100 (), []⟩ log s ∧
      s.connection.closed = some ⟨"db", "closed by client"⟩ ∧
      heard log = [(7, .lost ⟨"db", "write failed: Broken pipe (os error 32)"⟩)] := by
  let pools : PoolEntry Unit := ⟨fun _ => "pool"⟩
  exact ⟨pools, closed_in_reply (), closed_before_mark ()⟩

/-! ### The losses of one connection -/

/-- How the losses that are told in a run of overlapping operations relate to the recorded one. -/
structure Reported [PoolEntry P] (address : String) (log : List (Moment P H)) (s : Shared P H) :
    Prop where
  stands : ∀ moment ∈ log, ∀ lost, moment.turn.connection.closed = some lost →
    s.connection.closed = some lost
  /-- A mark that is made on an open connection is the recorded one. -/
  first : ∀ moment ∈ log, moment.before.closed = none → ∀ reason,
    moment.move = .goOn (.fail reason) ∨
      moment.move = .begin .drop ∧ reason = "socket dropped" →
    s.connection.closed = some ⟨address, reason⟩
  cause : ∀ lost, s.connection.closed = some lost →
    ∃ moment ∈ log, Connection.Closes moment.before moment.move lost
  refused : ∀ moment ∈ log, ∀ lost, moment.turn.result = .error (.lost lost) →
    s.connection.closed = some lost
  told : ∀ h lost, (h, .lost lost) ∈ heard log → s.connection.closed = some lost ∨
    ∃ moment ∈ log, ∃ handlers,
      Connection.Fails moment.before moment.move handlers lost ∧ h ∈ handlers
  /-- Who fails has the connection marked for just that failure before it is through. -/
  mark : ∀ moment ∈ log, ∀ handlers lost,
    Connection.Fails moment.before moment.move handlers lost →
      .fail lost.reason ∈ moment.turn.duties ∧
        (s.outstanding = [] → s.connection.isClosed = true)

theorem Shared.Interleaved.reported [PoolEntry P] {address : String} {maxMessageSize : Nat}
    {pool : P} {log : List (Moment P H)} {s : Shared P H}
    (run : Interleaved ⟨.opened address maxMessageSize pool, []⟩ log s) :
    Reported address log s := by
  have hc := Connection.Coherent.opened (H := H) address maxMessageSize pool
  refine ⟨?_, ?_, ?_, ?_, ?_, ?_⟩
  · intro moment hMem lost hClosed
    exact run.stands hc hMem hClosed
  · intro moment hMem hOpen reason hMark
    apply run.stands hc hMem
    obtain ⟨first, rest, rfl⟩ := List.append_of_mem hMem
    obtain ⟨before, after, hFirst, hBefore, _, _⟩ := run.split
    have hAddress : moment.before.address = address := by
      rw [← hBefore]
      exact hFirst.address
    rw [Moment.turn, ← hAddress]
    rcases hMark with hFail | ⟨hDrop, rfl⟩
    · have hReferenced := (hBefore ▸ hFirst.coherent hc : moment.before.Coherent).referenced hOpen
      rw [hFail, Connection.turn, if_pos hReferenced]
      show some (moment.before.closed.getD _) = _
      rw [hOpen]
      rfl
    · rw [hDrop]
      show some (moment.before.closed.getD _) = _
      rw [hOpen]
      rfl
  · intro lost hClosed
    exact run.marked hc rfl rfl (.inl hClosed)
  · intro moment hMem lost hResult
    obtain ⟨first, rest, rfl⟩ := List.append_of_mem hMem
    obtain ⟨before, after, hFirst, hBefore, hMove, hRest⟩ := run.split
    have hClosed : before.connection.closed = some lost := by
      rw [hBefore]
      exact Connection.result_turn hResult
    exact (((Interleaved.refl.next hMove).trans hRest).closed hClosed (hFirst.coherent hc)).1
  · intro h lost hHeard
    exact run.promised hc rfl (.inl hHeard)
  · intro moment hMem handlers lost hFails
    refine ⟨hFails.duty, ?_⟩
    intro hIdle
    rcases run.follows hc hMem hFails with hClosed | hDue
    · exact hClosed
    · rw [hIdle] at hDue
      cases hDue

/-- Every loss that a connection reports is the one that is recorded first, but for two: a handler
whose reply had begun is told why reading failed, and the handlers of a batch that could not be sent
are told of the failed write.  That too is what is recorded unless the connection was marked for
another reason first.  Where operations do not overlap only the first exception is left, when
reading fails on a connection that is closed already. -/
theorem losses_recorded_or_own [PoolEntry P] (address : String) (maxMessageSize : Nat) (pool : P) :
    (∀ (log : List (Moment P H)) (s : Shared P H),
      Shared.Interleaved ⟨.opened address maxMessageSize pool, []⟩ log s → Reported address log s) ∧
    ∀ (log : List (Connection.Entry P H)) (c : Connection P H),
      Connection.Run (.opened address maxMessageSize pool) log c →
      (∀ entry ∈ log, ∀ lost, entry.reaction.result = .error (.lost lost) →
        c.closed = some lost) ∧
      ∀ h lost, (h, .lost lost) ∈ Connection.told log → c.closed = some lost ∨
        ∃ entry ∈ log, entry.before.isClosed = true ∧ entry.event = .read ∧
          Connection.Fails entry.before (.begin .read) [h] lost := by
  constructor
  · intro log s run
    exact run.reported
  · intro log c run
    exact run.losses (.opened address maxMessageSize pool)

/-- In the two runs in which a client closes the connection in the middle, whoever is told something
else than the client's reason is told of a failure of its own. -/
theorem losses_of_two_closed_connections : ∃ (_ : PoolEntry Unit),
    (∃ (log : List (Connection.Entry Unit Nat)) (c : Connection Unit Nat),
      Connection.Run (.opened "db" 100 ()) log c ∧
      c.closed = some ⟨"db", "closed by client"⟩ ∧ ∃ entry ∈ log, entry.before.isClosed = true ∧
        Connection.Fails entry.before (.begin .read) [7]
          ⟨"db", "Transport IO Error: failed to fill whole buffer"⟩) ∧
    ∃ (log : List (Moment Unit Nat)) (s : Shared Unit Nat),
      Shared.Interleaved ⟨.opened "db" 100 (), []⟩ log s ∧
      s.connection.closed = some ⟨"db", "closed by client"⟩ ∧ ∃ moment ∈ log, ∃ handlers,
        Connection.Fails moment.before moment.move handlers
          ⟨"db", "write failed: Broken pipe (os error 32)"⟩ ∧ 7 ∈ handlers := by
  let pools : PoolEntry Unit := ⟨fun _ => "pool"⟩
  obtain ⟨entries, c, hRun, hClosed, hTold⟩ := closed_in_reply ()
  obtain ⟨moments, s, hShared, hMarked, hHeard⟩ := closed_before_mark ()
  obtain ⟨hOverlapping, hWhole⟩ := losses_recorded_or_own (H := Nat) "db" 100 ()
  refine ⟨pools, ⟨entries, c, hRun, hClosed, ?_⟩, moments, s, hShared, hMarked, ?_⟩
  · have hOne : (7, .lost ⟨"db", "Transport IO Error: failed to fill whole buffer"⟩) ∈
        Connection.told entries := by simp [hTold]
    rcases (hWhole _ _ hRun).2 _ _ hOne with hSame | ⟨entry, hMem, hEarly, _, hFails⟩
    · rw [hClosed] at hSame
      simp at hSame
    · exact ⟨entry, hMem, hEarly, hFails⟩
  · have hOne : (7, .lost ⟨"db", "write failed: Broken pipe (os error 32)"⟩) ∈ heard moments := by
      simp [hHeard]
    rcases (hOverlapping _ _ hShared).told _ _ hOne with hSame | hOwn
    · rw [hMarked] at hSame
      simp at hSame
    · exact hOwn

end DocumentLink
