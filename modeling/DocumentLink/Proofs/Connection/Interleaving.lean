import DocumentLink.Proofs.Connection.Story
import DocumentLink.Proofs.Log

/-! Operations that overlap.  Whoever works on a shared connection holds its state for one turn at a
time.  What an operation does outside of its turn stays behind as a duty: telling a handler of a
loss, marking the connection as closed after a failed write or a failed read, shutting the stream
down.  Between two duties of one operation any other can take a turn.  An operation that nothing
interrupts does what `perform` does, so every run of whole operations is an interleaved run. -/

namespace DocumentLink

/-- What an operation has still to do after it has let go of the state. -/
inductive Duty (H : Type) where
  | tell (handler : H) (lost : ConnectionLost)
  /-- Mark the connection as closed, if anything still refers to it. -/
  | fail (reason : String)
  /-- Close the stream in both directions. -/
  | shutDown

/-- What happens at one moment: an operation begins, or one that is under way goes on. -/
inductive Move (P H : Type) where
  | begin (event : Event P H)
  | goOn (duty : Duty H)

/-- What is done while the state is held, and the duties that it leaves. -/
structure Turn (P H : Type) extends Reaction P H (Except RequestError Unit) where
  duties : List (Duty H) := []

namespace Connection

variable {P H : Type}

/-- The turn of a query.  Refused and unsent handlers are told later, and a connection whose write
failed is not yet closed. -/
def beginQuery (c : Connection P H) (ops : List (Operation H)) : Turn P H :=
  match Batch.encode [] ops with
  | .error e => { connection := c, result := .error (.document (.encode e)) }
  | .ok batch =>
    match c.closed with
    | some lost =>
      { connection := c
        result := .error (.lost lost)
        duties := batch.awaiting.map fun (_, handler) => .tell handler lost }
    | none =>
      let (ids, correlator, bytes) := stamp c.correlator batch.bytes batch.awaiting
      let (sent, failure, outbound) := c.outbound.write bytes
      match failure with
      | none => { connection := { c with correlator, outbound }, sent, result := .ok () }
      | some e =>
        let (unsent, correlator) := takeAll correlator ids
        { connection := { c with correlator, outbound }
          sent
          result := .error (.transport (.io e))
          duties := unsent.map (.tell · (c.writeFailure e)) ++ [.fail (c.writeFailure e).reason] }

/-- A step of reading.  Where reading fails, the handler in hand is told at once and the connection
is closed later. -/
def beginRead [PoolEntry P] (c : Connection P H) : Turn P H :=
  match c.readFailure? with
  | some (e, inbound) =>
    { connection := { c with inbound, phase := .stopped }
      told := c.inHand.toList.map (·, .lost ⟨c.address, e.message⟩)
      result := .ok ()
      duties := [.fail e.message] }
  | none => { toReaction := c.perform .read }

/-- Marks the connection as closed and takes the waiting handlers out. -/
def markClosed (c : Connection P H) (reason : String) : Turn P H :=
  let lost := c.closed.getD ⟨c.address, reason⟩
  let (pending, correlator) := c.correlator.drain
  { connection := { c with closed := some lost, correlator }
    result := .ok ()
    -- only the first mark needs to shut the stream down, but doing so again changes nothing
    duties := .shutDown :: pending.map fun (_, handler) => .tell handler lost }

def turn [PoolEntry P] (c : Connection P H) : Move P H → Turn P H
  | .begin (.query ops) => c.beginQuery ops
  | .begin .close => { connection := c, result := .ok (), duties := [.fail "closed by client"] }
  | .begin .read => c.beginRead
  | .begin event => { toReaction := c.perform event }
  | .goOn (.tell handler lost) =>
    { connection := c, told := [(handler, .lost lost)], result := .ok () }
  | .goOn (.fail reason) =>
    if c.referenced then c.markClosed reason else { connection := c, result := .ok () }
  | .goOn .shutDown =>
    { connection := { c with inbound := c.inbound.close .ended }, result := .ok () }

/-! ### How a turn comes out -/

/-- A reading failure is what the next step of reading stops at. -/
theorem readStep_of_readFailure {c : Connection P H} {e : TransportError} {inbound : Source}
    (h : c.readFailure? = some (e, inbound)) :
    c.readStep = some (stopReading { c with inbound } c.inHand e) := by
  obtain ⟨_, _, _, _, _, _, phase⟩ := c
  cases phase with
  | stopped => cases h
  | betweenReplies =>
    dsimp only [readFailure?] at h
    dsimp only [readStep, inHand]
    split at h
    next hRead =>
      cases h
      rw [hRead]
    next => cases h
  | inReply frame handler delivered =>
    dsimp only [readFailure?] at h
    dsimp only [readStep, inHand]
    split at h
    next hMore =>
      rw [if_pos hMore]
      split at h
      next hRead =>
        cases h
        rw [hRead]
      next => cases h
    next hAll =>
      rw [if_neg hAll]
      cases hFinish : frame.finish with
      | ok _ =>
        rw [hFinish] at h
        cases h
      | error _ =>
        rw [hFinish] at h
        cases h
        rfl

/-- The ways in which a turn comes out.  A quiet one tells nobody anything, sends nothing, leaves no
duty and leaves correlator and phase alone. -/
inductive Turned [PoolEntry P] (c : Connection P H) : Move P H → Turn P H → Prop
  | refused {ops : List (Operation H)} {e : Bson.EncodeError}
      (encoded : Batch.encode [] ops = .error e) :
      Turned c (.begin (.query ops)) { connection := c, result := .error (.document (.encode e)) }
  | lost {ops : List (Operation H)} {batch : Batch H} {lost : ConnectionLost}
      (encoded : Batch.encode [] ops = .ok batch) (closed : c.closed = some lost) :
      Turned c (.begin (.query ops)) {
        connection := c
        result := .error (.lost lost)
        duties := (batch.awaiting.map Prod.snd).map (.tell · lost) }
  | sent {ops : List (Operation H)} {batch : Batch H} (outbound : Outbound)
      (encoded : Batch.encode [] ops = .ok batch) (opened : c.closed = none) :
      Turned c (.begin (.query ops)) {
        connection := {
          c with correlator := (stamp c.correlator batch.bytes batch.awaiting).2.1, outbound }
        sent := (stamp c.correlator batch.bytes batch.awaiting).2.2
        result := .ok () }
  | torn {ops : List (Operation H)} {batch : Batch H} (outbound : Outbound) (e : IoError)
      {unsent : List H} {rest : Correlator H} (bytes : Bytes)
      (encoded : Batch.encode [] ops = .ok batch) (opened : c.closed = none)
      (taken : takeAll (stamp c.correlator batch.bytes batch.awaiting).2.1
        (stamp c.correlator batch.bytes batch.awaiting).1 = (unsent, rest)) :
      Turned c (.begin (.query ops)) {
        connection := { c with correlator := rest, outbound }
        sent := bytes
        result := .error (.transport (.io e))
        duties := unsent.map (.tell · (c.writeFailure e)) ++ [.fail (c.writeFailure e).reason] }
  | close :
      Turned c (.begin .close) {
        connection := c, result := .ok (), duties := [.fail "closed by client"] }
  | drop : Turned c (.begin .drop) { c.dispose with result := .ok () }
  | broken {e : TransportError} {inbound : Source} (failed : c.readFailure? = some (e, inbound)) :
      Turned c (.begin .read) {
        connection := { c with inbound, phase := .stopped }
        told := c.inHand.toList.map (·, .lost ⟨c.address, e.message⟩)
        result := .ok ()
        duties := [.fail e.message] }
  | read {r : Reaction P H Unit} (step : c.readStep = some r) (unbroken : c.readFailure? = none) :
      Turned c (.begin .read) { r with result := .ok () }
  | tell (handler : H) (lost : ConnectionLost) :
      Turned c (.goOn (.tell handler lost)) {
        connection := c, told := [(handler, .lost lost)], result := .ok () }
  | fail (reason : String) (referenced : c.referenced = true) :
      Turned c (.goOn (.fail reason)) (c.markClosed reason)
  | quiet {move : Move P H} (lifecycle : Lifecycle P) (inbound : Source) (outbound : Outbound)
      (result : Except RequestError Unit) (noQuery : ∀ ops, move ≠ .begin (.query ops))
      (noTelling : ∀ handler lost, move ≠ .goOn (.tell handler lost))
      (noLoss : ∀ lost, result ≠ .error (.lost lost)) :
      Turned c move { connection := { c with lifecycle, inbound, outbound }, result }

theorem turned_beginQuery [PoolEntry P] (c : Connection P H) (ops : List (Operation H)) :
    Turned c (.begin (.query ops)) (c.beginQuery ops) := by
  unfold beginQuery
  split
  next e hEncode => exact .refused hEncode
  next batch hEncode =>
    split
    next lost hClosed =>
      have := Turned.lost hEncode hClosed
      rwa [List.map_map] at this
    next hOpen =>
      rcases hStamp : stamp c.correlator batch.bytes batch.awaiting with ⟨ids, correlator, bytes⟩
      rcases hWrite : c.outbound.write bytes with ⟨sent, failure, outbound⟩
      dsimp only
      rw [hWrite]
      cases failure with
      | none =>
        obtain rfl := Outbound.eq_of_write hWrite
        have hCase := Turned.sent outbound hEncode hOpen
        rw [hStamp] at hCase
        exact hCase
      | some e =>
        rcases hTaken : takeAll correlator ids with ⟨unsent, rest⟩
        have hStampTaken : takeAll (stamp c.correlator batch.bytes batch.awaiting).2.1
            (stamp c.correlator batch.bytes batch.awaiting).1 = (unsent, rest) := by
          rw [hStamp]
          exact hTaken
        exact .torn outbound e sent hEncode hOpen hStampTaken

theorem turned_turn [PoolEntry P] (c : Connection P H) (move : Move P H) :
    Turned c move (c.turn move) := by
  have hLifecycle {move : Move P H} (result : Except LifecycleError (Lifecycle P))
      (hNoQuery : ∀ ops, move ≠ .begin (.query ops))
      (hNoTelling : ∀ handler lost, move ≠ .goOn (.tell handler lost)) :
      Turned c move { toReaction := c.adoptLifecycle result } := by
    cases result with
    | ok lifecycle => exact .quiet lifecycle c.inbound c.outbound _ hNoQuery hNoTelling nofun
    | error e => exact .quiet c.lifecycle c.inbound c.outbound _ hNoQuery hNoTelling nofun
  cases move with
  | begin event =>
    cases event with
    | query ops => exact turned_beginQuery c ops
    | close => exact .close
    | drop => exact .drop
    | acquire pool => exact hLifecycle _ nofun nofun
    | reserve => exact hLifecycle _ nofun nofun
    | release force => exact hLifecycle _ nofun nofun
    | arrive b => exact .quiet c.lifecycle (c.inbound.append b) c.outbound _ nofun nofun nofun
    | hangUp ending =>
      exact .quiet c.lifecycle (c.inbound.close ending) c.outbound _ nofun nofun nofun
    | restrict outbound => exact .quiet c.lifecycle c.inbound outbound _ nofun nofun nofun
    | read =>
      show Turned c _ c.beginRead
      unfold beginRead
      split
      next e inbound hFailed => exact .broken hFailed
      next hUnbroken =>
        unfold perform
        dsimp only
        split
        next => exact .quiet c.lifecycle c.inbound c.outbound _ nofun nofun nofun
        next r hStep => exact .read hStep hUnbroken
  | goOn duty =>
    cases duty with
    | tell handler lost => exact .tell handler lost
    | fail reason =>
      unfold turn
      dsimp only
      split
      next hReferenced => exact .fail reason hReferenced
      next => exact .quiet c.lifecycle c.inbound c.outbound _ nofun nofun nofun
    | shutDown => exact .quiet c.lifecycle (c.inbound.close .ended) c.outbound _ nofun nofun nofun

end Connection

/-! ### Interleaved runs -/

/-- A connection and what is left to do of each operation on it that is not through. -/
structure Shared (P H : Type) where
  connection : Connection P H
  underWay : List (List (Duty H)) := []

/-- A move and the connection on which it is made. -/
structure Moment (P H : Type) where
  before : Connection P H
  move : Move P H

section

variable {P H : Type} [PoolEntry P]

def Moment.turn (moment : Moment P H) : Turn P H := moment.before.turn moment.move

def heard (log : List (Moment P H)) : List (H × Notice) :=
  log.flatMap fun moment => moment.turn.told

def written (log : List (Moment P H)) : Bytes := log.flatMap fun moment => moment.turn.sent

theorem heard_append (first second : List (Moment P H)) :
    heard (first ++ second) = heard first ++ heard second :=
  List.flatMap_append

theorem written_append (first second : List (Moment P H)) :
    written (first ++ second) = written first ++ written second :=
  List.flatMap_append

theorem heard_singleton (moment : Moment P H) : heard [moment] = moment.turn.told :=
  List.flatMap_singleton _ _

theorem written_singleton (moment : Moment P H) : written [moment] = moment.turn.sent :=
  List.flatMap_singleton _ _

end

namespace Shared

variable {P H : Type}

/-- All that is left to do. -/
def outstanding (s : Shared P H) : List (Duty H) := s.underWay.flatten

/-- What is left to do of one operation, unless it is through. -/
def unfinished : List (Duty H) → List (List (Duty H))
  | [] => []
  | duty :: rest => [duty :: rest]

theorem flatten_unfinished (duties : List (Duty H)) : (unfinished duties).flatten = duties := by
  cases duties with
  | nil => rfl
  | cons _ _ => exact List.flatten_singleton

/-- A move of those that share a connection.  Each operation does its duties in their order. -/
inductive Moves [PoolEntry P] (s : Shared P H) : Move P H → Shared P H → Prop
  | begin (event : Event P H) (possible : s.connection.Possible event) :
      Moves s (.begin event) {
        connection := (s.connection.turn (.begin event)).connection
        underWay := unfinished (s.connection.turn (.begin event)).duties ++ s.underWay }
  | goOn (duty : Duty H) {rest : List (Duty H)} (before : List (List (Duty H)))
      {after : List (List (Duty H))} (underWay : s.underWay = before ++ (duty :: rest) :: after) :
      Moves s (.goOn duty) {
        connection := (s.connection.turn (.goOn duty)).connection
        underWay :=
          before ++ unfinished ((s.connection.turn (.goOn duty)).duties ++ rest) ++ after }

/-- A run in which operations overlap, with the log of its moments. -/
inductive Interleaved [PoolEntry P] (start : Shared P H) : List (Moment P H) → Shared P H → Prop
  | refl : Interleaved start [] start
  | next {log : List (Moment P H)} {s s' : Shared P H} (run : Interleaved start log s)
      {move : Move P H} (moves : s.Moves move s') :
      Interleaved start (log ++ [⟨s.connection, move⟩]) s'

variable [PoolEntry P]

/-- A run goes on to a state that is known to be where the move leads. -/
theorem Interleaved.advance {start s s' s'' : Shared P H} {log : List (Moment P H)}
    {move : Move P H} (run : Interleaved start log s) (moves : s.Moves move s') (h : s' = s'') :
    Interleaved start (log ++ [⟨s.connection, move⟩]) s'' :=
  h ▸ run.next moves

theorem Interleaved.trans {start middle s : Shared P H} {first second : List (Moment P H)}
    (run : Interleaved start first middle) (further : Interleaved middle second s) :
    Interleaved start (first ++ second) s := by
  induction further with
  | refl =>
    rw [List.append_nil]
    exact run
  | next _ hMoves ih =>
    rw [← List.append_assoc]
    exact ih.next hMoves

/-- A moment of a run is a move between the run before it and the run after it. -/
theorem Interleaved.split {start s : Shared P H} {first rest : List (Moment P H)}
    {moment : Moment P H} (run : Interleaved start (first ++ moment :: rest) s) :
    ∃ before after : Shared P H, Interleaved start first before ∧
      before.connection = moment.before ∧ before.Moves moment.move after ∧
      Interleaved after rest s := by
  generalize hLog : first ++ moment :: rest = log at run
  induction run generalizing rest with
  | refl =>
    rw [List.append_eq_nil_iff] at hLog
    cases hLog.2
  | @next log s s' run move hMoves ih =>
    rcases eq_concat_cases hLog with ⟨rfl, rfl, rfl⟩ | ⟨rest, rfl, hFirst⟩
    · exact ⟨s, s', run, rfl, hMoves, .refl⟩
    · obtain ⟨before, after, hBefore, hMoment, hMove, hAfter⟩ := ih hFirst
      exact ⟨before, after, hBefore, hMoment, hMove, hAfter.next hMoves⟩

end Shared

/-- The duty that a move does. -/
def Move.duty? {P H : Type} : Move P H → Option (Duty H)
  | .begin _ => none
  | .goOn duty => some duty

namespace Shared

variable {P H : Type} [PoolEntry P] {s s' : Shared P H} {move : Move P H}

theorem Moves.connection (h : s.Moves move s') :
    s'.connection = (s.connection.turn move).connection := by
  cases h with
  | begin _ _ => rfl
  | goOn _ _ _ => rfl

/-- A move does one duty at most, and what it leaves to do is new. -/
theorem Moves.outstanding (h : s.Moves move s') : ∃ others,
    s.outstanding.Perm (move.duty?.toList ++ others) ∧
      s'.outstanding.Perm ((s.connection.turn move).duties ++ others) := by
  cases h with
  | begin event _ =>
    refine ⟨s.outstanding, .rfl, ?_⟩
    rw [Shared.outstanding, List.flatten_append, flatten_unfinished]
    exact .rfl
  | @goOn duty rest before after hUnderWay =>
    refine ⟨before.flatten ++ (rest ++ after.flatten), ?_, ?_⟩
    · rw [Shared.outstanding, hUnderWay, List.flatten_append, List.flatten_cons, List.cons_append]
      exact List.perm_middle
    · rw [Shared.outstanding, List.flatten_append, List.flatten_append, flatten_unfinished,
        List.append_assoc, List.append_assoc]
      exact List.perm_append_comm_assoc _ _ _

/-- A duty that is left was left before, or is new. -/
theorem Moves.left (h : s.Moves move s') {duty : Duty H} (hMem : duty ∈ s'.outstanding) :
    duty ∈ (s.connection.turn move).duties ∨ duty ∈ s.outstanding := by
  obtain ⟨others, hBefore, hAfter⟩ := h.outstanding
  rcases List.mem_append.mp (hAfter.mem_iff.mp hMem) with hNew | hOther
  · exact .inl hNew
  · exact .inr (hBefore.mem_iff.mpr (List.mem_append_right _ hOther))

theorem Moves.due {duty : Duty H} (h : s.Moves (.goOn duty) s') : duty ∈ s.outstanding := by
  obtain ⟨others, hBefore, _⟩ := h.outstanding
  exact hBefore.mem_iff.mpr List.mem_cons_self

theorem Moves.possible (h : s.Moves move s') :
    ∀ event, move = .begin event → s.connection.Possible event := by
  rintro event rfl
  cases h with
  | begin _ hPossible => exact hPossible

end Shared

/-! ### The state between two turns -/

section

variable {P H : Type} [PoolEntry P]

theorem Connection.Coherent.turn {c : Connection P H} (hc : c.Coherent) {move : Move P H}
    (hPossible : ∀ event, move = .begin event → c.Possible event) :
    (c.turn move).connection.Coherent := by
  generalize hTurn : c.turn move = t
  cases hTurn ▸ c.turned_turn move with
  | refused _ => exact hc
  | lost _ _ => exact hc
  | sent outbound hEncode hOpen =>
    exact hc.query (hPossible _ rfl).2 (.sent outbound hEncode hOpen)
  | @torn ops batch outbound e unsent rest bytes hEncode hOpen hTaken =>
    rw [takeAll_stamp hc.sound _ ((hPossible _ rfl).2 _ hEncode hOpen)] at hTaken
    cases hTaken
    exact ⟨⟨hc.sound.distinct, hc.sound.nonzero⟩, hc.drained, hc.disposed, hc.delivered⟩
  | close => exact hc
  | drop => exact hc.perform (hPossible .drop rfl)
  | broken _ => exact ⟨hc.sound, hc.drained, hc.disposed, nofun⟩
  | read hStep _ => exact hc.read hStep
  | tell _ _ => exact hc
  | fail reason _ => exact ⟨Correlator.Sound.drain, fun _ => rfl, fun _ => rfl, hc.delivered⟩
  | quiet _ _ _ _ _ _ _ => exact ⟨hc.sound, hc.drained, hc.disposed, hc.delivered⟩

theorem Shared.Moves.coherent {s s' : Shared P H} {move : Move P H} (h : s.Moves move s')
    (hc : s.connection.Coherent) : s'.connection.Coherent := by
  rw [h.connection]
  exact hc.turn h.possible

theorem Shared.Interleaved.coherent {start s : Shared P H} {log : List (Moment P H)}
    (run : Interleaved start log s) (hStart : start.connection.Coherent) :
    s.connection.Coherent := by
  induction run with
  | refl => exact hStart
  | next _ hMoves ih => exact hMoves.coherent ih

end

/-! ### Operations that nothing interrupts -/

namespace Shared

variable {P H : Type} [PoolEntry P]

/-- One state leads to another by a run that tells and sends just this. -/
def Yields (s : Shared P H) (told : List (H × Notice)) (sent : Bytes) (s' : Shared P H) : Prop :=
  ∃ log, Interleaved s log s' ∧ heard log = told ∧ written log = sent

theorem Yields.trans {s middle s' : Shared P H} {told more : List (H × Notice)}
    {sent further : Bytes} (h : Yields s told sent middle) (h' : Yields middle more further s') :
    Yields s (told ++ more) (sent ++ further) s' := by
  obtain ⟨first, hFirst, rfl, rfl⟩ := h
  obtain ⟨second, hSecond, rfl, rfl⟩ := h'
  exact ⟨first ++ second, hFirst.trans hSecond, heard_append _ _, written_append _ _⟩

theorem Moves.yields {s s' : Shared P H} {move : Move P H} (h : s.Moves move s') :
    Yields s (s.connection.turn move).told (s.connection.turn move).sent s' :=
  ⟨[⟨s.connection, move⟩], Interleaved.refl.next h, heard_singleton _, written_singleton _⟩

theorem Yields.tells (c : Connection P H) (others : List (List (Duty H))) (handlers : List H)
    (lost : ConnectionLost) (rest : List (Duty H)) :
    Yields ⟨c, unfinished (handlers.map (.tell · lost) ++ rest) ++ others⟩
      (handlers.map (·, .lost lost)) [] ⟨c, unfinished rest ++ others⟩ := by
  induction handlers with
  | nil => exact ⟨[], .refl, rfl, rfl⟩
  | cons handler handlers ih =>
    have hTell :
        Yields ⟨c, unfinished ((handler :: handlers).map (.tell · lost) ++ rest) ++ others⟩
          [(handler, .lost lost)] []
          ⟨c, unfinished (handlers.map (.tell · lost) ++ rest) ++ others⟩ :=
      (Moves.goOn (.tell handler lost) [] rfl).yields
    exact hTell.trans ih

theorem Yields.fail {c : Connection P H} (hReferenced : c.referenced = true)
    (others : List (List (Duty H))) (reason : String) :
    Yields ⟨c, [.fail reason] :: others⟩ (c.fail reason).told []
      ⟨(c.fail reason).connection, others⟩ := by
  have hTurn : c.turn (.goOn (.fail reason)) = c.markClosed reason := if_pos hReferenced
  have hMark := (Moves.goOn (s := ⟨c, [.fail reason] :: others⟩) _ [] rfl).yields
  rw [hTurn, List.append_nil] at hMark
  have hShut := (Moves.goOn (s := ⟨(c.markClosed reason).connection,
    (c.markClosed reason).duties :: others⟩) .shutDown [] rfl).yields
  have hTells := Yields.tells (c.fail reason).connection others c.correlator.waiting
    (c.closed.getD ⟨c.address, reason⟩) []
  rw [List.append_nil, Correlator.waiting, List.map_map, List.map_map] at hTells
  exact (hMark.trans hShut).trans hTells

variable {c : Connection P H} {others : List (List (Duty H))}

theorem Yields.query {ops : List (Operation H)} (hPossible : c.Possible (.query ops)) :
    Yields ⟨c, others⟩ (c.query ops).told (c.query ops).sent
      ⟨(c.query ops).connection, others⟩ := by
  have hBegin : Yields ⟨c, others⟩ (c.beginQuery ops).told (c.beginQuery ops).sent
      ⟨(c.beginQuery ops).connection, unfinished (c.beginQuery ops).duties ++ others⟩ :=
    (Moves.begin (s := ⟨c, others⟩) _ hPossible).yields
  unfold Connection.beginQuery at hBegin
  unfold Connection.query
  split
  next hEncode =>
    rw [hEncode] at hBegin
    exact hBegin
  next batch hEncode =>
    rw [hEncode] at hBegin
    split
    next lost hClosed =>
      simp only [hClosed] at hBegin
      have hTells := Yields.tells c others (batch.awaiting.map Prod.snd) lost []
      rw [List.append_nil, List.map_map, List.map_map] at hTells
      exact hBegin.trans hTells
    next hOpen =>
      dsimp only at hBegin
      split at hBegin
      next hClosed =>
        rw [hOpen] at hClosed
        cases hClosed
      rcases hStamp : Connection.stamp c.correlator batch.bytes batch.awaiting with
        ⟨ids, correlator, bytes⟩
      rcases hWrite : c.outbound.write bytes with ⟨sent, failure, outbound⟩
      simp only [hStamp, hWrite] at hBegin ⊢
      cases failure with
      | none => exact hBegin
      | some e =>
        rcases hTaken : Connection.takeAll correlator ids with ⟨unsent, rest⟩
        simp only [hTaken] at hBegin ⊢
        have hTells := Yields.tells { c with correlator := rest, outbound } others unsent
          (c.writeFailure e) [.fail (c.writeFailure e).reason]
        have hFail := Yields.fail (c := { c with correlator := rest, outbound }) hPossible.1 others
          (c.writeFailure e).reason
        have hAll := (hBegin.trans hTells).trans hFail
        rw [List.nil_append, List.append_nil, List.append_nil] at hAll
        exact hAll

theorem Yields.read : Yields ⟨c, others⟩ (c.perform .read).told (c.perform .read).sent
    ⟨(c.perform .read).connection, others⟩ := by
  have hBegin : Yields ⟨c, others⟩ c.beginRead.told c.beginRead.sent
      ⟨c.beginRead.connection, unfinished c.beginRead.duties ++ others⟩ :=
    (Moves.begin (s := ⟨c, others⟩) .read trivial).yields
  unfold Connection.beginRead at hBegin
  split at hBegin
  next e inbound hFailed =>
    have hStep := Connection.readStep_of_readFailure hFailed
    unfold Connection.perform
    simp only [hStep]
    unfold Connection.stopReading
    dsimp only
    split
    next hReferenced =>
      exact hBegin.trans (Yields.fail (c := { c with inbound, phase := .stopped }) hReferenced _ _)
    next hGone =>
      have hTurn : ({ c with inbound, phase := .stopped } : Connection P H).turn
          (.goOn (.fail e.message)) =
            { connection := { c with inbound, phase := .stopped }, result := .ok () } :=
        if_neg hGone
      have hDone := (Moves.goOn (s := ⟨{ c with inbound, phase := .stopped },
        [.fail e.message] :: others⟩) _ [] rfl).yields
      rw [hTurn] at hDone
      have hAll := hBegin.trans hDone
      rw [List.append_nil, List.append_nil] at hAll
      exact hAll
  next => exact hBegin

/-- An event to which nothing else comes in between happens as a whole. -/
theorem Yields.perform {event : Event P H} (hPossible : c.Possible event) :
    Yields ⟨c, others⟩ (c.perform event).told (c.perform event).sent
      ⟨(c.perform event).connection, others⟩ := by
  have hBegin := (Moves.begin (s := ⟨c, others⟩) event hPossible).yields
  cases event with
  | query ops => exact .query hPossible
  | close =>
    have hFail := Yields.fail hPossible others "closed by client"
    exact hBegin.trans hFail
  | read => exact .read
  | _ => exact hBegin

end Shared

/-- A run of whole operations is an interleaved run after which every operation is through. -/
theorem Connection.Run.yields {P H : Type} [PoolEntry P] {start c : Connection P H}
    {log : List (Entry P H)} (run : Run start log c) :
    Shared.Yields ⟨start, []⟩ (told log) (sent log) ⟨c, []⟩ := by
  induction run with
  | refl => exact ⟨[], .refl, rfl, rfl⟩
  | next run event hPossible ih =>
    rw [told_concat, sent_concat]
    exact ih.trans (.perform hPossible)

end DocumentLink
