import DocumentLink.Proofs.Connection.Coherent

/-! What a handler is told in the course of a run.  At any time a handler is unknown to the
connection, or waits for a reply, or is in the hands of the reading side, or has been told how its
request ended.  `Standing` says what it has been told in each of these places; every event moves it
on from one place to the next and tells it what belongs to that move. -/

namespace DocumentLink

variable {P H : Type}

/-- The documents of a reply, in the order of their places. -/
def upTo (header : ReplyHeader) (data : List Bytes) : List Notice :=
  data.mapIdx fun i d => .document header i d

/-- The calls of a handler whose request has come to its end: documents from the first one on, and
one last call.  It is the completion once all announced documents are there. -/
inductive Ended : List Notice → Prop
  | complete (header : ReplyHeader) (data : List Bytes)
      (all : header.documentCount.toInt = data.length) :
      Ended (upTo header data ++ [.complete header])
  | lost (header : ReplyHeader) (data : List Bytes) (e : ConnectionLost) :
      Ended (upTo header data ++ [.lost e])

/-- The calls of a handler at any time. -/
inductive Story : List Notice → Prop
  | going (header : ReplyHeader) (data : List Bytes) : Story (upTo header data)
  | ended {calls : List Notice} (h : Ended calls) : Story calls

theorem upTo_concat (header : ReplyHeader) (data : List Bytes) (d : Bytes) :
    upTo header (data ++ [d]) = upTo header data ++ [.document header data.length d] := by
  unfold upTo
  rw [List.mapIdx_concat]

def callsOf [DecidableEq H] (h : H) (told : List (H × Notice)) : List Notice :=
  (told.filter fun call => call.1 = h).map Prod.snd

section

variable [DecidableEq H] (h : H)

theorem callsOf_append (first second : List (H × Notice)) :
    callsOf h (first ++ second) = callsOf h first ++ callsOf h second := by
  unfold callsOf
  rw [List.filter_append, List.map_append]

theorem length_callsOf (told : List (H × Notice)) :
    (callsOf h told).length = (told.map Prod.fst).count h := by
  unfold callsOf
  rw [List.length_map, ← List.countP_eq_length_filter, List.count, List.countP_map]
  rfl

theorem callsOf_eq_nil {told : List (H × Notice)} (hNone : (told.map Prod.fst).count h = 0) :
    callsOf h told = [] := by
  rw [← List.length_eq_zero_iff, length_callsOf, hNone]

theorem lost_of_mem_callsOf {told : List (H × Notice)}
    (hLost : ∀ call ∈ told, ∃ e, call.2 = .lost e) {notice : Notice}
    (hMem : notice ∈ callsOf h told) : ∃ e, notice = .lost e := by
  obtain ⟨call, hCall, rfl⟩ := List.mem_map.mp hMem
  exact hLost call (List.mem_of_mem_filter hCall)

end

/-! Several handlers are told the same. -/

theorem map_fst_told (handlers : List H) (notice : Notice) :
    (handlers.map (·, notice)).map Prod.fst = handlers := by
  rw [List.map_map]
  exact List.map_id handlers

theorem lost_of_mem_told {handlers : List H} {lost : ConnectionLost} :
    ∀ call ∈ handlers.map (·, Notice.lost lost), ∃ e, call.2 = .lost e := by
  intro call hCall
  obtain ⟨handler, _, rfl⟩ := List.mem_map.mp hCall
  exact ⟨lost, rfl⟩

theorem of_mem_told {handlers : List H} {h : H} {notice other : Notice}
    (hMem : (h, notice) ∈ handlers.map (·, other)) : h ∈ handlers ∧ notice = other := by
  obtain ⟨_, hHandler, hSame⟩ := List.mem_map.mp hMem
  cases hSame
  exact ⟨hHandler, rfl⟩

theorem Connection.told_fail (c : Connection P H) (reason : String) :
    (c.fail reason).told =
      c.correlator.waiting.map (·, .lost (c.closed.getD ⟨c.address, reason⟩)) := by
  unfold Connection.fail Correlator.drain Correlator.waiting
  rw [List.map_map]
  rfl

/-- The handlers that an event hands over to a connection. -/
def Event.handed : Event P H → List H
  | .query ops => ops.filterMap Operation.handler
  | _ => []

def Event.accepted : Event P H → List H
  | .query ops =>
    match Batch.encode [] ops with
    | .ok _ => ops.filterMap Operation.handler
    | .error _ => []
  | _ => []

def Event.refused : Event P H → List H
  | .query ops =>
    match Batch.encode [] ops with
    | .ok _ => []
    | .error _ => ops.filterMap Operation.handler
  | _ => []

theorem Event.accepted_append_refused (event : Event P H) :
    event.accepted ++ event.refused = event.handed := by
  cases event with
  | query ops =>
    unfold accepted refused handed
    dsimp only
    split
    · exact List.append_nil _
    · rfl
  | _ => rfl

theorem Event.accepted_of_ne {event : Event P H} (h : ∀ ops, event ≠ .query ops) :
    event.accepted = [] := by
  cases event with
  | query ops => exact absurd rfl (h ops)
  | _ => rfl

theorem Event.accepted_of_ok {ops : List (Operation H)} {batch : Batch H}
    (h : Batch.encode [] ops = .ok batch) :
    (Event.query ops : Event P H).accepted = batch.awaiting.map Prod.snd := by
  simp only [accepted, h, Batch.handlers_awaiting h]

theorem Event.accepted_of_error {ops : List (Operation H)} {e : Bson.EncodeError}
    (h : Batch.encode [] ops = .error e) : (Event.query ops : Event P H).accepted = [] := by
  simp only [accepted, h]

namespace Connection

section

variable [DecidableEq H]

/-- How often a handler waits. -/
def waits (c : Connection P H) (h : H) : Nat := c.correlator.waiting.count h

/-- How often a handler is in the hands of the reading side. -/
def held (c : Connection P H) (h : H) : Nat := c.inHand.toList.count h

/-- Where a handler is that has been handed over so many times, and what it has been told. -/
inductive Standing (c : Connection P H) (h : H) : Nat → List Notice → Prop
  | unknown (waits : c.waits h = 0) (held : c.held h = 0) : Standing c h 0 []
  | waiting (waits : c.waits h = 1) (held : c.held h = 0) : Standing c h 1 []
  | served {frame : ReplyFrame} {data : List Bytes} (waits : c.waits h = 0)
      (phase : c.phase = .inReply frame (some h) data.length) :
      Standing c h 1 (upTo frame.header data)
  | ended {calls : List Notice} (waits : c.waits h = 0) (held : c.held h = 0)
      (ended : Ended calls) : Standing c h 1 calls

variable {c c' : Connection P H} {h : H} {times : Nat} {calls : List Notice}

theorem held_of_inReply {frame : ReplyFrame} {handler : Option H} {delivered : Nat}
    (hPhase : c.phase = .inReply frame handler delivered) :
    c.held h = if handler = some h then 1 else 0 := by
  rw [held, inHand, hPhase]
  cases handler with
  | none => rfl
  | some h' => simp [List.count_singleton]

theorem held_of_inHand (hHand : c.inHand = none) : c.held h = 0 := by
  rw [held, hHand]
  rfl

theorem held_of_phase (hPhase : c'.phase = c.phase) : c'.held h = c.held h := by
  rw [held, held, inHand, inHand, hPhase]

theorem Standing.of_same (hs : Standing c h times calls)
    (hCorrelator : c'.correlator = c.correlator) (hPhase : c'.phase = c.phase) :
    Standing c' h times calls := by
  have hWaits : c'.waits h = c.waits h := by rw [waits, waits, hCorrelator]
  have hHeld : c'.held h = c.held h := held_of_phase hPhase
  cases hs with
  | unknown hWait hHold => exact .unknown (by omega) (by omega)
  | waiting hWait hHold => exact .waiting (by omega) (by omega)
  | served hWait hInReply => exact .served (by omega) (hPhase.trans hInReply)
  | ended hWait hHold hEnded => exact .ended (by omega) (by omega) hEnded

theorem Ended.of_lost {more : List Notice} (header : ReplyHeader) (data : List Bytes)
    (hOne : more.length = 1) (hLost : ∀ notice ∈ more, ∃ e, notice = .lost e) :
    Ended (upTo header data ++ more) := by
  obtain ⟨notice, rfl⟩ := List.length_eq_one_iff.mp hOne
  obtain ⟨e, rfl⟩ := hLost notice List.mem_cons_self
  exact .lost header data e

/-- New handlers come in and others are told of a loss.  None of them gets lost on the way, and
none goes back from the reading side to those that wait. -/
theorem Standing.move (hs : Standing c h times calls) (new : Nat) {told : List (H × Notice)}
    (hOnce : times + new ≤ 1) (hPhase : c'.phase = c.phase ∨ c'.inHand = none)
    (hWaits : c'.waits h ≤ c.waits h + new)
    (hCount : c'.waits h + c'.held h + (told.map Prod.fst).count h = c.waits h + c.held h + new)
    (hLost : ∀ call ∈ told, ∃ e, call.2 = .lost e) :
    Standing c' h (times + new) (calls ++ callsOf h told) := by
  rw [← length_callsOf] at hCount
  have hCalls : ∀ notice ∈ callsOf h told, ∃ e, notice = .lost e :=
    fun _ hMem => lost_of_mem_callsOf h hLost hMem
  have hHeld : c'.held h ≤ c.held h := by
    rcases hPhase with hSame | hNone
    · exact Nat.le_of_eq (held_of_phase hSame)
    · rw [held_of_inHand hNone]
      exact Nat.zero_le _
  generalize callsOf h told = more at hCount hCalls
  have header : ReplyHeader := ⟨0, 0, 0, 0⟩
  cases hs with
  | unknown hWait hHold =>
    by_cases hNew : new = 0
    · obtain rfl : more = [] := List.eq_nil_of_length_eq_zero (by omega)
      subst hNew
      exact .unknown (by omega) (by omega)
    · obtain rfl : new = 1 := by omega
      by_cases hTold : more.length = 0
      · obtain rfl := List.eq_nil_of_length_eq_zero hTold
        exact .waiting (by omega) (by omega)
      · exact .ended (by omega) (by omega) (Ended.of_lost header [] (by omega) hCalls)
  | waiting hWait hHold =>
    obtain rfl : new = 0 := by omega
    by_cases hTold : more.length = 0
    · obtain rfl := List.eq_nil_of_length_eq_zero hTold
      exact .waiting (by omega) (by omega)
    · exact .ended (by omega) (by omega) (Ended.of_lost header [] (by omega) hCalls)
  | @served frame data hWait hInReply =>
    obtain rfl : new = 0 := by omega
    have hHold : c.held h = 1 := by rw [held_of_inReply hInReply, if_pos rfl]
    by_cases hTold : more.length = 0
    · obtain rfl := List.eq_nil_of_length_eq_zero hTold
      rcases hPhase with hSame | hNone
      · rw [List.append_nil]
        exact .served (by omega) (hSame.trans hInReply)
      · rw [held_of_inHand hNone] at hCount
        omega
    · exact .ended (by omega) (by omega) (Ended.of_lost frame.header data (by omega) hCalls)
  | ended hWait hHold hEnded =>
    obtain rfl : new = 0 := by omega
    obtain rfl : more = [] := List.eq_nil_of_length_eq_zero (by omega)
    rw [List.append_nil]
    exact .ended (by omega) (by omega) hEnded

/-- A reply begins, and the handler that waits for it is taken in hand. -/
theorem Standing.take (hs : Standing c h times calls) {frame : ReplyFrame} {handler : Option H}
    (hHeld : c.held h = 0) (hPhase : c'.phase = .inReply frame handler 0)
    (hCount : c'.waits h + c'.held h = c.waits h) : Standing c' h times calls := by
  have hHold := held_of_inReply (h := h) hPhase
  cases hs with
  | unknown hWait _ => exact .unknown (by omega) (by omega)
  | waiting hWait _ =>
    by_cases hTaken : handler = some h
    · subst hTaken
      rw [if_pos rfl] at hHold
      have hNone : c'.phase = .inReply frame (some h) ([] : List Bytes).length := hPhase
      exact .served (by omega) hNone
    · rw [if_neg hTaken] at hHold
      exact .waiting (by omega) (by omega)
  | served hWait hInReply =>
    rw [held_of_inReply hInReply, if_pos rfl] at hHeld
    cases hHeld
  | ended hWait _ hEnded => exact .ended (by omega) (by omega) hEnded

/-- The handler in hand is told something, and nobody else is. -/
theorem Standing.serve (hs : Standing c h times calls) {frame : ReplyFrame} {handler : Option H}
    {delivered : Nat} {notice : Notice} (hPhase : c.phase = .inReply frame handler delivered)
    (hWaits : c'.waits h = c.waits h)
    (hMine : handler = some h → c.waits h = 0 → ∀ data, data.length = delivered →
      Standing c' h 1 (upTo frame.header data ++ [notice]))
    (hOther : handler ≠ some h → c'.held h = 0) :
    Standing c' h times (calls ++ callsOf h (handler.toList.map (·, notice))) := by
  have hHeld := held_of_inReply (h := h) hPhase
  by_cases hHand : handler = some h
  · subst hHand
    rw [if_pos rfl] at hHeld
    have hCalls : callsOf h ((some h).toList.map (·, notice)) = [notice] := by simp [callsOf]
    rw [hCalls]
    cases hs with
    | unknown _ hHold => omega
    | waiting _ hHold => omega
    | @served frame' data hWait hInReply =>
      rw [hPhase] at hInReply
      cases hInReply
      exact hMine rfl hWait data rfl
    | ended _ hHold _ => omega
  · rw [if_neg hHand] at hHeld
    have hNone : ((handler.toList.map (·, notice)).map Prod.fst).count h = 0 := by
      rw [List.count_eq_zero, List.map_map]
      rintro hMem
      simp only [List.mem_map, Option.mem_toList] at hMem
      obtain ⟨h', hh', rfl⟩ := hMem
      exact hHand hh'
    rw [callsOf_eq_nil h hNone, List.append_nil]
    cases hs with
    | unknown hWait _ => exact .unknown (by omega) (hOther hHand)
    | waiting hWait _ => exact .waiting (by omega) (hOther hHand)
    | served _ hInReply =>
      rw [hPhase] at hInReply
      cases hInReply
      exact absurd rfl hHand
    | ended hWait _ hEnded => exact .ended (by omega) (hOther hHand) hEnded

theorem Standing.silent (hs : Standing c h 0 calls) : calls = [] := by
  cases hs
  rfl

theorem Standing.story (hs : Standing c h 1 calls) : Story calls := by
  cases hs with
  | waiting _ _ => exact .going ⟨0, 0, 0, 0⟩ []
  | served _ _ => exact .going _ _
  | ended _ _ hEnded => exact .ended hEnded

theorem Standing.over (hs : Standing c h 1 calls) (hWaits : c.waits h = 0) (hHeld : c.held h = 0) :
    Ended calls := by
  cases hs with
  | waiting hWait _ => omega
  | served _ hPhase =>
    rw [held_of_inReply hPhase, if_pos rfl] at hHeld
    cases hHeld
  | ended _ _ hEnded => exact hEnded

/-! ### Every event moves a handler on -/

theorem Standing.fail (hs : Standing c h times calls) (hOnce : times ≤ 1) (reason : String) :
    Standing (c.fail reason).connection h times (calls ++ callsOf h (c.fail reason).told) := by
  rw [told_fail]
  have hWaits : (c.fail reason).connection.waits h = 0 := rfl
  have hHeld : (c.fail reason).connection.held h = c.held h := rfl
  refine hs.move 0 hOnce (.inl rfl) (by omega) ?_ lost_of_mem_told
  rw [map_fst_told, hWaits, hHeld]
  show 0 + c.held h + c.waits h = c.waits h + c.held h + 0
  omega

theorem Standing.stopReading (hs : Standing c h times calls) (hOnce : times ≤ 1)
    (e : TransportError) : Standing (c.stopReading c.inHand e).connection h times
      (calls ++ callsOf h (c.stopReading c.inHand e).told) := by
  let stopped : Connection P H := { c with phase := .stopped }
  let told := c.inHand.toList.map (·, Notice.lost ⟨c.address, e.message⟩)
  have hStopped : Standing stopped h times (calls ++ callsOf h told) := by
    refine hs.move 0 hOnce (.inr rfl) (Nat.le_refl _) ?_ lost_of_mem_told
    rw [map_fst_told]
    rfl
  unfold Connection.stopReading
  dsimp only
  split
  · rw [callsOf_append, ← List.append_assoc]
    exact hStopped.fail hOnce _
  · exact hStopped

theorem Standing.query (hs : Standing c h times calls) (hc : c.Coherent)
    {ops : List (Operation H)} (hReturns : c.Returns ops)
    (hOnce : times + (Event.query ops : Event P H).accepted.count h ≤ 1)
    {r : Reaction P H (Except RequestError Unit)} (hQueried : Queried c ops r) :
    Standing r.connection h (times + (Event.query ops : Event P H).accepted.count h)
      (calls ++ callsOf h r.told) := by
  cases hQueried with
  | refused hEncode =>
    rw [Event.accepted_of_error hEncode] at hOnce ⊢
    exact hs.move _ hOnce (.inl rfl) (Nat.le_refl _) rfl (List.forall_mem_nil _)
  | closed hEncode hClosed =>
    rw [Event.accepted_of_ok hEncode] at hOnce ⊢
    refine hs.move _ hOnce (.inl rfl) (Nat.le_add_right _ _) ?_ lost_of_mem_told
    rw [map_fst_told]
  | @sent batch outbound hEncode hOpen =>
    rw [Event.accepted_of_ok hEncode] at hOnce ⊢
    have hWaits : (stamp c.correlator batch.bytes batch.awaiting).2.1.waiting.count h =
        c.waits h + (batch.awaiting.map Prod.snd).count h := by
      rw [waiting_stamp, List.count_append]
      rfl
    refine hs.move _ hOnce (.inl rfl) (Nat.le_of_eq hWaits) ?_ (List.forall_mem_nil _)
    show (stamp c.correlator batch.bytes batch.awaiting).2.1.waiting.count h + c.held h + 0 = _
    omega
  | @torn batch outbound e unsent rest bytes hEncode hOpen hTaken =>
    rw [Event.accepted_of_ok hEncode] at hOnce ⊢
    rw [takeAll_stamp hc.sound _ (hReturns _ hEncode hOpen)] at hTaken
    cases hTaken
    refine hs.move _ hOnce (.inl rfl) (Nat.zero_le _) ?_ lost_of_mem_told
    rw [map_fst_told, List.count_append]
    show 0 + c.held h + (_ + c.waits h) = _
    omega

theorem Standing.read (hs : Standing c h times calls) (hc : c.Coherent) (hOnce : times ≤ 1)
    {r : Reaction P H Unit} (hStep : c.readStep = some r) :
    Standing r.connection h times (calls ++ callsOf h r.told) := by
  cases reads_of_readStep hStep with
  | @frame frame inbound hBetween hRead _ =>
    have hHeld : c.held h = 0 := by
      rw [held, inHand, hBetween]
      rfl
    show Standing _ h times (calls ++ [])
    rw [List.append_nil]
    apply hs.take hHeld rfl
    show (c.correlator.take frame.responseTo).2.waiting.count h +
      (c.correlator.take frame.responseTo).1.toList.count h = c.correlator.waiting.count h
    rcases Correlator.take_cases hc.sound frame.responseTo with
      ⟨_, hTake⟩ | ⟨handler, before, after, hPending, hTake⟩
    · rw [hTake]
      rfl
    · rw [hTake]
      unfold Correlator.waiting
      rw [hPending]
      simp only [List.map_append, List.map_cons, List.count_append, List.count_cons,
        Option.toList_some, List.count_nil]
      omega
  | abandoned hBetween _ _ =>
    have hHeld : c.held h = 0 := by
      rw [held, inHand, hBetween]
      rfl
    refine hs.move 0 hOnce (.inr rfl) (Nat.le_refl _) ?_ (List.forall_mem_nil _)
    rw [hHeld]
    rfl
  | @document frame next handler delivered d inbound hInReply _ hRead =>
    have hHeader := ReplyFrame.header_of_readDocument hRead
    refine hs.serve hInReply rfl ?_ ?_
    · rintro rfl hWaits data rfl
      rw [← hHeader, ← upTo_concat]
      refine .served hWaits ?_
      rw [List.length_append]
      rfl
    · intro hOther
      rw [held_of_inReply rfl, if_neg hOther]
  | @complete frame handler delivered hInReply hAll _ =>
    refine hs.serve hInReply rfl ?_ ?_
    · rintro rfl hWaits data rfl
      refine .ended hWaits rfl (.complete frame.header data ?_)
      have hDelivered := hc.delivered _ _ _ hInReply
      omega
    · intro _
      rfl
  | stop inbound _ =>
    have hRead : Standing ({ c with inbound } : Connection P H) h times calls :=
      hs.of_same rfl rfl
    exact hRead.stopReading hOnce _

theorem Standing.perform [PoolEntry P] (hs : Standing c h times calls) (hc : c.Coherent)
    {event : Event P H} (hPossible : c.Possible event)
    (hOnce : times + event.accepted.count h ≤ 1) :
    Standing (c.perform event).connection h (times + event.accepted.count h)
      (calls ++ callsOf h (c.perform event).told) := by
  generalize hPerform : c.perform event = r
  cases performed_of_perform hPerform with
  | query hQueried => exact hs.query hc hPossible.2 hOnce hQueried
  | close => exact hs.fail hOnce _
  | drop => exact (hs.fail hOnce _).of_same rfl rfl
  | read hStep => exact hs.read hc hOnce hStep
  | quiet _ _ _ _ hNoQuery =>
    rw [Event.accepted_of_ne hNoQuery]
    show Standing _ h times (calls ++ [])
    rw [List.append_nil]
    exact hs.of_same rfl rfl

end

/-! ### Whole runs -/

/-- The handlers that are handed over in the course of a log. -/
def handed (log : List (Entry P H)) : List H := log.flatMap fun entry => entry.event.handed

def accepted (log : List (Entry P H)) : List H := log.flatMap fun entry => entry.event.accepted

def refused (log : List (Entry P H)) : List H := log.flatMap fun entry => entry.event.refused

theorem accepted_concat (log : List (Entry P H)) (entry : Entry P H) :
    accepted (log ++ [entry]) = accepted log ++ entry.event.accepted := by
  simp [accepted]

theorem count_handed [DecidableEq H] (log : List (Entry P H)) (h : H) :
    (handed log).count h = (accepted log).count h + (refused log).count h := by
  induction log with
  | nil => rfl
  | cons entry log ih =>
    unfold handed accepted refused at *
    simp only [List.flatMap_cons, ← Event.accepted_append_refused, List.count_append] at *
    omega

variable [PoolEntry P] [DecidableEq H] {start c : Connection P H} {log : List (Entry P H)}

theorem Run.standing (run : Run start log c) (hStart : start.Coherent) {h : H}
    (hFresh : Standing start h 0 []) (hOnce : (accepted log).count h ≤ 1) :
    Standing c h ((accepted log).count h) (callsOf h (told log)) := by
  induction run with
  | refl => exact hFresh
  | @next log c run event hPossible ih =>
    rw [accepted_concat, List.count_append] at hOnce ⊢
    rw [told_concat, callsOf_append]
    exact (ih (by omega)).perform (run.coherent hStart) hPossible hOnce

/-- Each handler is handed over once, and that gives it up.  If its batch can be encoded it hears
the documents of one reply from the first one on and after them at most one last call; that has
come once the connection is closed, or nothing refers to it, and the reading side has stopped.  If
its batch cannot be encoded it hears nothing. -/
theorem Run.handlers_hear_one_story {address : String} {maxMessageSize : Nat} {pool : P}
    (run : Run (opened address maxMessageSize pool) log c) (hOnce : (handed log).Nodup) :
    (∀ h ∈ accepted log, Story (callsOf h (told log))) ∧
    (c.isClosed = true ∨ c.referenced = false → c.phase = .stopped →
      ∀ h ∈ accepted log, Ended (callsOf h (told log))) ∧
    ∀ h ∈ refused log, callsOf h (told log) = [] := by
  have hStart := Coherent.opened (H := H) address maxMessageSize pool
  have hCount (h : H) : (accepted log).count h + (refused log).count h ≤ 1 := by
    rw [← count_handed]
    exact List.nodup_iff_count_le_one.mp hOnce h
  have hStanding (h : H) : Standing c h ((accepted log).count h) (callsOf h (told log)) := by
    have := hCount h
    exact run.standing hStart (.unknown rfl rfl) (by omega)
  have hAccepted {h : H} (hMem : h ∈ accepted log) : Standing c h 1 (callsOf h (told log)) := by
    have hPos := List.count_pos_iff.mpr hMem
    have hLe := hCount h
    obtain hOne : (accepted log).count h = 1 := by omega
    exact hOne ▸ hStanding h
  refine ⟨?_, ?_, ?_⟩
  · intro h hMem
    exact (hAccepted hMem).story
  · intro hGone hStopped h hMem
    have hc := run.coherent hStart
    have hClosed : c.isClosed = true := by
      rcases hGone with hClosed | hUnreferenced
      · exact hClosed
      · exact hc.disposed hUnreferenced
    apply (hAccepted hMem).over
    · rw [waits, Correlator.waiting, hc.drained hClosed]
      rfl
    · rw [held, inHand, hStopped]
      rfl
  · intro h hMem
    have hPos := List.count_pos_iff.mpr hMem
    have hLe := hCount h
    have hNone : (accepted log).count h = 0 := by omega
    have hs := hStanding h
    rw [hNone] at hs
    exact hs.silent

/-- A query whose connection is closed before the reply comes. -/
theorem one_story_of_a_closed_query : ∃ (_ : PoolEntry Unit) (log : List (Entry Unit Nat))
    (c : Connection Unit Nat), Run (opened "db" 100 ()) log c ∧ (handed log).Nodup ∧
      c.isClosed = true ∧ c.phase = .stopped ∧ accepted log = [7] ∧
      Ended (callsOf 7 (told log)) := by
  let pools : PoolEntry Unit := ⟨fun _ => "pool"⟩
  let op : Query Nat := { collection := "a", query := .document [], handler := some 7 }
  let start : Connection Unit Nat := opened "db" 100 ()
  have hReturns : start.Returns [.query op] := by
    intro batch hEncode _
    rw [Batch.handlers_awaiting hEncode]
    exact ⟨⟨1, rfl⟩, trivial⟩
  let asked := (start.perform (.query [.query op])).connection
  let closed := (asked.perform .close).connection
  let log : List (Entry Unit Nat) :=
    [⟨start, .query [.query op]⟩, ⟨asked, .close⟩, ⟨closed, .read⟩]
  have run : Run start log (closed.perform .read).connection :=
    ((Run.refl.next (.query [.query op]) ⟨rfl, hReturns⟩).next .close rfl).next .read trivial
  have hOnce : (handed log).Nodup := List.nodup_singleton 7
  refine ⟨pools, log, _, run, hOnce, rfl, rfl, rfl, ?_⟩
  exact (run.handlers_hear_one_story hOnce).2.1 (.inl rfl) rfl 7 (List.mem_singleton_self 7)

end Connection

end DocumentLink
