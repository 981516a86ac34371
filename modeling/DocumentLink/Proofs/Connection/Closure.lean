import DocumentLink.Proofs.Connection.Interleaving

/-! What a closed connection still does.  Its reason stands whatever follows, no request waits on it
and none is taken on, so nothing is sent any more and a reply that comes in finds nobody.  A handler
that the connection does not hold is told as often as it is handed over: once the operations under
way are through, every handler of a refused batch has been told of the loss once. -/

namespace DocumentLink

variable {P H : Type}

/-- What handlers will be told when duties are done. -/
def due (duties : List (Duty H)) : List (H × Notice) :=
  duties.flatMap fun
    | .tell handler lost => [(handler, .lost lost)]
    | .fail _ | .shutDown => []

theorem due_append (first second : List (Duty H)) :
    due (first ++ second) = due first ++ due second :=
  List.flatMap_append

theorem due_tells (handlers : List H) (lost : ConnectionLost) :
    due (handlers.map (.tell · lost)) = handlers.map (·, .lost lost) := by
  unfold due
  rw [List.flatMap_map]
  exact List.flatMap_pure_eq_map _ _

theorem callsOf_map [DecidableEq H] (h : H) (handlers : List H) (notice : Notice) :
    callsOf h (handlers.map (·, notice)) = List.replicate (handlers.count h) notice := by
  rw [List.eq_replicate_iff, length_callsOf, map_fst_told]
  refine ⟨rfl, ?_⟩
  intro other hOther
  obtain ⟨call, hCall, rfl⟩ := List.mem_map.mp hOther
  obtain ⟨_, _, rfl⟩ := List.mem_map.mp (List.mem_of_mem_filter hCall)
  rfl

/-- The handlers that a move hands over in a batch that can be encoded. -/
def Move.accepted : Move P H → List H
  | .begin event => event.accepted
  | .goOn _ => []

theorem Move.accepted_of_ne {move : Move P H} (h : ∀ ops, move ≠ .begin (.query ops)) :
    move.accepted = [] := by
  cases move with
  | begin event => exact Event.accepted_of_ne fun ops hEvent => h ops (congrArg _ hEvent)
  | goOn _ => rfl

/-- The handlers that are handed over in the course of a log, in batches that can be encoded. -/
def entrusted (log : List (Moment P H)) : List H := log.flatMap fun moment => moment.move.accepted

theorem entrusted_append (first second : List (Moment P H)) :
    entrusted (first ++ second) = entrusted first ++ entrusted second :=
  List.flatMap_append

theorem entrusted_singleton (moment : Moment P H) : entrusted [moment] = moment.move.accepted :=
  List.flatMap_singleton _ _

namespace Connection

section

variable {c : Connection P H}

/-- The handler neither waits for a reply nor is in the hands of the reading side. -/
structure Away (c : Connection P H) (h : H) : Prop where
  waits : h ∉ c.correlator.waiting
  held : c.inHand ≠ some h

theorem callsOf_waiting [DecidableEq H] {h : H} (ha : c.Away h) (notice : Notice) :
    callsOf h (c.correlator.waiting.map (·, notice)) = [] := by
  rw [callsOf_map, List.count_eq_zero.mpr ha.waits]
  rfl

theorem callsOf_inHand [DecidableEq H] {h : H} (ha : c.Away h) {handler : Option H}
    (hHand : c.inHand = handler) (notice : Notice) :
    callsOf h (handler.toList.map (·, notice)) = [] := by
  rw [callsOf_map, List.count_eq_zero.mpr]
  · rfl
  · rw [Option.mem_toList, ← hHand]
    exact ha.held

theorem duties_markClosed (c : Connection P H) (reason : String) : (c.markClosed reason).duties =
    .shutDown :: c.correlator.waiting.map (.tell · (c.closed.getD ⟨c.address, reason⟩)) := by
  rw [Correlator.waiting, List.map_map]
  rfl

theorem due_markClosed (c : Connection P H) (reason : String) : due (c.markClosed reason).duties =
    c.correlator.waiting.map (·, .lost (c.closed.getD ⟨c.address, reason⟩)) := by
  rw [duties_markClosed, ← due_tells]
  rfl

end

variable [PoolEntry P] {c : Connection P H} {move : Move P H}

/-! ### The reason stands -/

/-- A turn on a closed connection changes neither the reason nor the correlator, and sends
nothing. -/
theorem turn_of_closed {lost : ConnectionLost} (hClosed : c.closed = some lost)
    (hEmpty : c.correlator.pending = []) :
    (c.turn move).connection.closed = some lost ∧
      (c.turn move).connection.correlator = c.correlator ∧ (c.turn move).sent = [] := by
  have hFail (reason : String) : some (c.closed.getD ⟨c.address, reason⟩) = some lost := by
    rw [hClosed]
    rfl
  have hDrain : c.correlator.drain.2 = c.correlator := by
    rw [Correlator.drain_of_empty hEmpty]
  generalize hTurn : c.turn move = t
  cases hTurn ▸ c.turned_turn move with
  | sent _ _ hOpen =>
    rw [hOpen] at hClosed
    cases hClosed
  | torn _ _ _ _ hOpen _ =>
    rw [hOpen] at hClosed
    cases hClosed
  | drop => exact ⟨hFail _, hDrain, rfl⟩
  | fail reason _ => exact ⟨hFail reason, hDrain, rfl⟩
  | read hStep hUnbroken =>
    cases reads_of_readStep hStep with
    | @frame frame _ _ _ _ =>
      refine ⟨hClosed, ?_, rfl⟩
      show (c.correlator.take frame.responseTo).2 = c.correlator
      rw [Correlator.take_of_empty hEmpty]
    | stop _ _ hFailed =>
      rw [hFailed] at hUnbroken
      cases hUnbroken
    | _ => exact ⟨hClosed, rfl, rfl⟩
  | _ => exact ⟨hClosed, rfl, rfl⟩

/-- Where nobody waits and the reading side has no handler in hand it gets none, and whoever is told
something is told of a loss. -/
theorem turn_of_inHand (hEmpty : c.correlator.pending = []) (hHand : c.inHand = none) :
    (c.turn move).connection.inHand = none ∧
      ∀ call ∈ (c.turn move).told, ∃ e, call.2 = .lost e := by
  generalize hTurn : c.turn move = t
  cases hTurn ▸ c.turned_turn move with
  | drop =>
    refine ⟨hHand, ?_⟩
    show ∀ call ∈ (c.fail "socket dropped").told, _
    rw [told_fail]
    exact lost_of_mem_told
  | broken _ =>
    refine ⟨rfl, ?_⟩
    rw [hHand]
    exact List.forall_mem_nil _
  | read hStep hUnbroken =>
    cases reads_of_readStep hStep with
    | @frame frame _ _ _ _ =>
      refine ⟨?_, List.forall_mem_nil _⟩
      show (c.correlator.take frame.responseTo).1 = none
      rw [Correlator.take_of_empty hEmpty]
    | abandoned _ _ _ => exact ⟨rfl, List.forall_mem_nil _⟩
    | @document _ _ handler _ _ _ hInReply _ _ =>
      obtain rfl : handler = none := by rwa [inHand, hInReply] at hHand
      exact ⟨rfl, List.forall_mem_nil _⟩
    | @complete _ handler _ hInReply _ _ =>
      obtain rfl : handler = none := by rwa [inHand, hInReply] at hHand
      exact ⟨rfl, List.forall_mem_nil _⟩
    | stop _ _ hFailed =>
      rw [hFailed] at hUnbroken
      cases hUnbroken
  | tell handler lost =>
    refine ⟨hHand, ?_⟩
    intro call hCall
    rw [List.mem_singleton] at hCall
    exact ⟨lost, congrArg Prod.snd hCall⟩
  | _ => exact ⟨hHand, List.forall_mem_nil _⟩

/-! ### A handler that the connection does not hold -/

/-- What a handler is told in a turn that the connection does not hold is what the duty says that is
done.  If it is handed over to a closed connection it will be told of the loss. -/
theorem Away.turn [DecidableEq H] {h : H} (ha : c.Away h) (hc : c.Coherent)
    (hPossible : ∀ event, move = .begin event → c.Possible event) {lost : ConnectionLost}
    (hNew : c.closed = some lost ∨ move.accepted.count h = 0) :
    (c.turn move).connection.Away h ∧
      callsOf h (c.turn move).told = callsOf h (due move.duty?.toList) ∧
      callsOf h (due (c.turn move).duties) =
        List.replicate (move.accepted.count h) (.lost lost) := by
  have hOpened (hOpen : c.closed = none) : move.accepted.count h = 0 := by
    rcases hNew with hClosed | hNone
    · rw [hOpen] at hClosed
      cases hClosed
    · exact hNone
  generalize hTurn : c.turn move = t
  cases hTurn ▸ c.turned_turn move with
  | refused hEncode =>
    refine ⟨ha, rfl, ?_⟩
    rw [Move.accepted, Event.accepted_of_error hEncode]
    rfl
  | @lost ops batch reason hEncode hClosed =>
    refine ⟨ha, rfl, ?_⟩
    rw [Move.accepted, Event.accepted_of_ok hEncode] at hNew ⊢
    rw [due_tells, callsOf_map]
    rcases hNew with hSame | hNone
    · rw [hClosed] at hSame
      cases hSame
      rfl
    · rw [hNone]
      rfl
  | @sent ops batch outbound hEncode hOpen =>
    have hNone := hOpened hOpen
    refine ⟨⟨?_, ha.held⟩, rfl, ?_⟩
    · rw [Move.accepted, Event.accepted_of_ok hEncode, List.count_eq_zero] at hNone
      rw [waiting_stamp, List.mem_append, not_or]
      exact ⟨ha.waits, hNone⟩
    · rw [hNone]
      rfl
  | @torn ops batch outbound e unsent rest bytes hEncode hOpen hTaken =>
    have hNone := hOpened hOpen
    rw [takeAll_stamp hc.sound _ ((hPossible _ rfl).2 _ hEncode hOpen)] at hTaken
    cases hTaken
    refine ⟨⟨ha.waits, ha.held⟩, rfl, ?_⟩
    rw [Move.accepted, Event.accepted_of_ok hEncode] at hNone ⊢
    rw [due_append, due_tells, callsOf_append, callsOf_map, hNone]
    rfl
  | close => exact ⟨ha, rfl, rfl⟩
  | drop =>
    refine ⟨⟨List.not_mem_nil, ha.held⟩, ?_, rfl⟩
    show callsOf h (c.fail "socket dropped").told = []
    rw [told_fail]
    exact callsOf_waiting ha _
  | broken _ => exact ⟨⟨ha.waits, nofun⟩, callsOf_inHand ha rfl _, rfl⟩
  | read hStep hUnbroken =>
    cases reads_of_readStep hStep with
    | @frame frame _ _ _ _ =>
      refine ⟨⟨?_, ?_⟩, rfl, rfl⟩
      · exact fun hMem => ha.waits ((Correlator.waiting_take_sublist _ _).subset hMem)
      · intro hTaken
        exact ha.waits (List.mem_map_of_mem (Correlator.mem_of_take hTaken))
    | abandoned _ _ _ => exact ⟨⟨ha.waits, nofun⟩, rfl, rfl⟩
    | document hInReply _ _ =>
      have hHand := ha.held
      rw [inHand, hInReply] at hHand
      exact ⟨⟨ha.waits, hHand⟩, callsOf_inHand ha (by rw [inHand, hInReply]) _, rfl⟩
    | complete hInReply _ _ =>
      have hHand : none ≠ some h := (Option.some_ne_none h).symm
      exact ⟨⟨ha.waits, hHand⟩, callsOf_inHand ha (by rw [inHand, hInReply]) _, rfl⟩
    | stop _ _ hFailed =>
      rw [hFailed] at hUnbroken
      cases hUnbroken
  | tell handler lost => exact ⟨ha, rfl, rfl⟩
  | fail reason _ =>
    refine ⟨⟨List.not_mem_nil, ha.held⟩, rfl, ?_⟩
    rw [due_markClosed]
    exact callsOf_waiting ha _
  | @quiet move _ _ _ _ hNoQuery hNoTelling _ =>
    refine ⟨⟨ha.waits, ha.held⟩, ?_, ?_⟩
    · cases move with
      | begin _ => rfl
      | goOn duty =>
        cases duty with
        | tell handler lost => exact absurd rfl (hNoTelling handler lost)
        | fail _ => rfl
        | shutDown => rfl
    · rw [Move.accepted_of_ne hNoQuery]
      rfl

end Connection

namespace Shared

/-- What a handler will be told once every operation that is under way is through. -/
def owed [DecidableEq H] (s : Shared P H) (h : H) : List Notice := callsOf h (due s.outstanding)

theorem perm_owed [DecidableEq H] {s : Shared P H} {first second : List (Duty H)}
    (hPerm : s.outstanding.Perm (first ++ second)) (h : H) :
    (s.owed h).Perm (callsOf h (due first) ++ callsOf h (due second)) := by
  rw [← callsOf_append, ← due_append]
  exact ((hPerm.flatMap_right _).filter _).map _

variable [PoolEntry P] {start s s' : Shared P H} {log : List (Moment P H)}

theorem Moves.closed {move : Move P H} (hMoves : s.Moves move s') {lost : ConnectionLost}
    (hClosed : s.connection.closed = some lost) (hc : s.connection.Coherent) :
    s'.connection.closed = some lost ∧ s'.connection.correlator = s.connection.correlator ∧
      (s.connection.turn move).sent = [] := by
  rw [hMoves.connection]
  exact Connection.turn_of_closed hClosed (hc.empty_of_closed hClosed)

theorem Interleaved.closed (run : Interleaved start log s) {lost : ConnectionLost}
    (hClosed : start.connection.closed = some lost) (hc : start.connection.Coherent) :
    s.connection.closed = some lost ∧ s.connection.correlator = start.connection.correlator ∧
      written log = [] := by
  induction run with
  | refl => exact ⟨hClosed, rfl, rfl⟩
  | next run hMoves ih =>
    obtain ⟨hStays, hSame, hWritten⟩ := ih
    obtain ⟨hStill, hKept, hSent⟩ := hMoves.closed hStays (run.coherent hc)
    refine ⟨hStill, hKept.trans hSame, ?_⟩
    rw [written_append, hWritten, written_singleton]
    exact hSent

theorem Interleaved.heard_of_inHand (run : Interleaved start log s) {lost : ConnectionLost}
    (hClosed : start.connection.closed = some lost) (hc : start.connection.Coherent)
    (hHand : start.connection.inHand = none) :
    s.connection.inHand = none ∧ ∀ call ∈ heard log, ∃ e, call.2 = .lost e := by
  induction run with
  | refl => exact ⟨hHand, List.forall_mem_nil _⟩
  | next run hMoves ih =>
    obtain ⟨hNone, hHeard⟩ := ih
    obtain ⟨hStays, _, _⟩ := run.closed hClosed hc
    obtain ⟨hStill, hTold⟩ :=
      Connection.turn_of_inHand ((run.coherent hc).empty_of_closed hStays) hNone
    rw [hMoves.connection, heard_append, heard_singleton, List.forall_mem_append]
    exact ⟨hStill, hHeard, hTold⟩

variable [DecidableEq H]

/-- What a handler that the connection does not hold has been told and will be told is what it was
going to be told at the start, and the loss once for every time that it is handed over. -/
theorem Interleaved.away (run : Interleaved start log s) (hc : start.connection.Coherent) {h : H}
    (ha : start.connection.Away h) (lost : ConnectionLost)
    (hNew : start.connection.closed = some lost ∨ (entrusted log).count h = 0) :
    s.connection.Away h ∧ (callsOf h (heard log) ++ s.owed h).Perm
      (start.owed h ++ List.replicate ((entrusted log).count h) (.lost lost)) := by
  induction run with
  | refl =>
    refine ⟨ha, ?_⟩
    show (start.owed h).Perm (start.owed h ++ [])
    rw [List.append_nil]
  | @next log s s' run move hMoves ih =>
    rw [entrusted_append, entrusted_singleton, List.count_append] at hNew ⊢
    dsimp only at hNew ⊢
    obtain ⟨haNow, hNow⟩ := ih (hNew.imp_right fun hNone => by omega)
    have hNewNow : s.connection.closed = some lost ∨ move.accepted.count h = 0 := by
      rcases hNew with hClosed | hNone
      · exact .inl (run.closed hClosed hc).1
      · exact .inr (by omega)
    obtain ⟨haNext, hTold, hDue⟩ := haNow.turn (run.coherent hc) hMoves.possible hNewNow
    refine ⟨hMoves.connection ▸ haNext, ?_⟩
    obtain ⟨others, hBefore, hAfter⟩ := hMoves.outstanding
    have hOwed := perm_owed hBefore h
    have hOwes := perm_owed hAfter h
    rw [hDue] at hOwes
    rw [heard_append, callsOf_append, heard_singleton, Moment.turn, hTold,
      ← List.replicate_append_replicate]
    generalize callsOf h (due others) = kept at hOwed hOwes
    generalize callsOf h (due move.duty?.toList) = done at hOwed ⊢
    generalize callsOf h (heard log) = calls at hNow ⊢
    generalize List.replicate (move.accepted.count h) (Notice.lost lost) = new at hOwes ⊢
    have hDone : (calls ++ done ++ (new ++ kept)).Perm (calls ++ (done ++ kept) ++ new) := by
      rw [List.append_assoc, List.append_assoc, List.append_assoc]
      exact (List.perm_append_comm.append_left done).append_left calls
    have hPaid : (calls ++ (done ++ kept) ++ new).Perm (calls ++ s.owed h ++ new) :=
      (hOwed.symm.append_left calls).append_right new
    rw [← List.append_assoc]
    exact (((hOwes.append_left _).trans hDone).trans hPaid).trans (hNow.append_right new)

/-- A handler that is in no batch that can be encoded is not held, is told nothing and is owed
nothing. -/
theorem Interleaved.untouched {address : String} {maxMessageSize : Nat} {pool : P}
    (run : Interleaved ⟨.opened address maxMessageSize pool, []⟩ log s) {h : H}
    (hNever : h ∉ entrusted log) :
    s.connection.Away h ∧ callsOf h (heard log) = [] ∧ s.owed h = [] := by
  have hNone : (entrusted log).count h = 0 := List.count_eq_zero.mpr hNever
  obtain ⟨hAway, hPerm⟩ := run.away (.opened address maxMessageSize pool)
    ⟨List.not_mem_nil, nofun⟩ ⟨address, ""⟩ (.inr hNone)
  rw [hNone] at hPerm
  exact ⟨hAway, List.append_eq_nil_iff.mp hPerm.eq_nil⟩

/-- A closed connection has no request in flight and stays closed for the reason that was recorded
first.  From then on nothing is sent, no id is given out and no handler is kept; whoever is still
told something, but for a handler that the reading side had in hand, is told of a loss.  A query is
refused for that reason, and each handler of its batch is told of it once. -/
theorem Interleaved.closed_for_good {address : String} {maxMessageSize : Nat} {pool : P}
    (run : Interleaved ⟨.opened address maxMessageSize pool, []⟩ log s) :
    (s.connection.isClosed = true → s.connection.correlator.pending = []) ∧
    ∀ lost, s.connection.closed = some lost →
      (∀ ops batch, Batch.encode [] ops = .ok batch →
        s.connection.beginQuery ops = {
          connection := s.connection, result := .error (.lost lost)
          duties := (ops.filterMap Operation.handler).map (.tell · lost) } ∧
        s.connection.query ops = {
          connection := s.connection, result := .error (.lost lost)
          told := (ops.filterMap Operation.handler).map (·, .lost lost) }) ∧
      ∀ more s', Interleaved s more s' →
        s'.connection.closed = some lost ∧
        s'.connection.correlator = s.connection.correlator ∧ written more = [] ∧
        (s.connection.inHand = none → ∀ call ∈ heard more, ∃ e, call.2 = .lost e) ∧
        ∀ h, s.connection.inHand ≠ some h → s.owed h = [] →
          callsOf h (heard more) ++ s'.owed h =
            List.replicate ((entrusted more).count h) (.lost lost) := by
  have hc := run.coherent (.opened address maxMessageSize pool)
  refine ⟨hc.drained, ?_⟩
  intro lost hClosed
  refine ⟨?_, ?_⟩
  · intro ops batch hEncode
    rw [← Batch.handlers_awaiting hEncode]
    simp only [Connection.beginQuery, Connection.query, hEncode, hClosed, List.map_map]
    exact ⟨rfl, rfl⟩
  · intro more s' further
    obtain ⟨hStays, hSame, hWritten⟩ := further.closed hClosed hc
    refine ⟨hStays, hSame, hWritten, fun hHand => (further.heard_of_inHand hClosed hc hHand).2, ?_⟩
    intro h hHand hOwed
    have ha : s.connection.Away h := by
      refine ⟨?_, hHand⟩
      rw [Correlator.waiting, hc.empty_of_closed hClosed]
      exact List.not_mem_nil
    have hPerm := (further.away hc ha lost (.inl hClosed)).2
    rw [hOwed, List.nil_append] at hPerm
    exact List.perm_replicate.mp hPerm

/-- A client closes the connection between a failed write and the marking that belongs to it, and
another query begins before the first is through. -/
theorem closed_between_write_and_marking : ∃ (_ : PoolEntry Unit)
    (log more : List (Moment Unit Nat)) (s s' : Shared Unit Nat),
      Interleaved ⟨.opened "db" 100 (), []⟩ log s ∧ Interleaved s more s' ∧
      s.connection.correlator.pending = [] ∧
      s'.connection.closed = some ⟨"db", "closed by client"⟩ ∧ written more = [] ∧
      (∀ call ∈ heard more, ∃ e, call.2 = .lost e) ∧
      callsOf 8 (heard more) ++ s'.owed 8 = [.lost ⟨"db", "closed by client"⟩] := by
  let pools : PoolEntry Unit := ⟨fun _ => "pool"⟩
  let ask (h : Nat) : Operation Nat :=
    .query { collection := "a", query := .document [], handler := some h }
  let byClient : ConnectionLost := ⟨"db", "closed by client"⟩
  let atWrite : ConnectionLost := ⟨"db", "write failed: Broken pipe (os error 32)"⟩
  have hReturns (c : Connection Unit Nat) (hFresh : c.correlator = {}) (h : Nat) :
      c.Returns [ask h] := by
    apply Connection.returns_of_room
    rw [hFresh]
    show 0 + 1 < UInt32.size
    decide
  have hLate (c : Connection Unit Nat) (hClosed : c.closed = some byClient) (h : Nat) :
      c.Returns [ask h] := by
    intro batch _ hOpen
    rw [hClosed] at hOpen
    cases hOpen
  let start : Shared Unit Nat := ⟨.opened "db" 100 (), []⟩
  have hFull := (Interleaved.refl : Interleaved start [] start).next
    (.begin (.restrict ⟨some (0, .brokenPipe)⟩) trivial)
  have hTorn := hFull.next (.begin (.query [ask 7]) ⟨rfl, hReturns _ rfl 7⟩)
  have hClosing := hTorn.next (.begin .close rfl)
  have hClosed := hClosing.next (.goOn (.fail "closed by client") [] rfl)
  have hLater {log : List (Moment Unit Nat)} {s : Shared Unit Nat}
      (_ : Interleaved start log s) : Interleaved s [] s := .refl
  have hRefused := (hLater hClosed).next (.begin (.query [ask 8]) ⟨rfl, hLate _ rfl 8⟩)
  have hTold := hRefused.next (.goOn (.tell 7 atWrite) [[.tell 8 byClient], [.shutDown]] rfl)
  have hMarked := hTold.next (.goOn (.fail atWrite.reason) [[.tell 8 byClient], [.shutDown]] rfl)
  have further := hMarked.next (.goOn (.tell 8 byClient) [] rfl)
  obtain ⟨hEmpty, hGood⟩ := hClosed.closed_for_good
  obtain ⟨_, hFurther⟩ := hGood byClient rfl
  obtain ⟨hStays, _, hWritten, hLost, hOnce⟩ := hFurther _ _ further
  exact ⟨pools, _, _, _, _, hClosed, further, hEmpty rfl, hStays, hWritten, hLost rfl,
    hOnce 8 nofun (by decide)⟩

end Shared

end DocumentLink
