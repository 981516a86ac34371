import DocumentLink.Connection.Reading
import DocumentLink.Connection.Request
import DocumentLink.Proofs.Connection.Correlator
import DocumentLink.Proofs.Message.Layout

/-! Runs of one connection.  An event is what a client, the server or the reading side does at one
moment; the reading side takes its steps one by one, so between any two of them anything else can
happen.  `Queried`, `Reads` and `Performed` list once how a query, a step of reading and any event
come out; what is said of runs is proved by cases on these. -/

namespace DocumentLink

/-- A write that does not fail gets everything through. -/
theorem Outbound.eq_of_write {out out' : Outbound} {b sent : Bytes}
    (h : out.write b = (sent, none, out')) : sent = b := by
  unfold Outbound.write at h
  split at h
  · cases h
    rfl
  · split at h <;> cases h
    rfl

/-- Something that happens to a connection. -/
inductive Event (P H : Type) where
  | query (ops : List (Operation H))
  | close
  /-- The last reference to the connection goes. -/
  | drop
  | acquire (pool : P)
  | reserve
  | release (force : Bool)
  /-- Bytes of the server arrive. -/
  | arrive (b : Bytes)
  /-- No more bytes will arrive. -/
  | hangUp (ending : Ending)
  /-- From now on writes succeed and fail as `outbound` says. -/
  | restrict (outbound : Outbound)
  /-- The reading side takes one step, unless it has to wait or has stopped. -/
  | read

namespace Connection

variable {P H : Type}

def adoptLifecycle (c : Connection P H) :
    Except LifecycleError (Lifecycle P) → Reaction P H (Except RequestError Unit)
  | .ok lifecycle => { connection := { c with lifecycle }, result := .ok () }
  | .error e => { connection := c, result := .error (.lifecycle e) }

def perform [PoolEntry P] (c : Connection P H) :
    Event P H → Reaction P H (Except RequestError Unit)
  | .query ops => c.query ops
  | .close => { c.close with result := .ok () }
  | .drop => { c.dispose with result := .ok () }
  | .acquire pool => c.adoptLifecycle (c.lifecycle.acquire pool)
  | .reserve => c.adoptLifecycle c.lifecycle.reserve
  | .release force => c.adoptLifecycle ((c.lifecycle.release force).map Prod.snd)
  | .arrive b => { connection := { c with inbound := c.inbound.append b }, result := .ok () }
  | .hangUp ending =>
    { connection := { c with inbound := c.inbound.close ending }, result := .ok () }
  | .restrict outbound => { connection := { c with outbound }, result := .ok () }
  | .read =>
    match c.readStep with
    | none => { connection := c, result := .ok () }
    | some r => { r with result := .ok () }

/-- A query comes back.  Only the search for the ids of its handlers could keep it, and that is
taken up where the batch can be encoded and the connection is open. -/
def Returns (c : Connection P H) (ops : List (Operation H)) : Prop :=
  ∀ batch, Batch.encode [] ops = .ok batch → c.closed = none →
    c.correlator.Admits (batch.awaiting.map Prod.snd)

theorem returns_of_room {c : Connection P H} {ops : List (Operation H)}
    (hRoom : c.correlator.pending.length + (ops.filterMap Operation.handler).length <
      UInt32.size) : c.Returns ops := by
  intro batch hEncode _
  rw [Batch.handlers_awaiting hEncode]
  exact Correlator.admits_of_room hRoom

/-- When an event can happen: a client needs a reference to the connection for what it does. -/
def Possible (c : Connection P H) : Event P H → Prop
  | .query ops => c.referenced = true ∧ c.Returns ops
  | .close | .drop | .acquire _ | .reserve | .release _ => c.referenced = true
  | .arrive _ | .hangUp _ | .restrict _ | .read => True

/-- An event and the connection to which it happens. -/
structure Entry (P H : Type) where
  before : Connection P H
  event : Event P H

def Entry.reaction [PoolEntry P] (entry : Entry P H) : Reaction P H (Except RequestError Unit) :=
  entry.before.perform entry.event

/-- What handlers are told in the course of a log. -/
def told [PoolEntry P] (log : List (Entry P H)) : List (H × Notice) :=
  log.flatMap fun entry => entry.reaction.told

def sent [PoolEntry P] (log : List (Entry P H)) : Bytes :=
  log.flatMap fun entry => entry.reaction.sent

/-- A run that leads from the connection `start` to another, with the log of its events. -/
inductive Run [PoolEntry P] (start : Connection P H) : List (Entry P H) → Connection P H → Prop
  | refl : Run start [] start
  | next {log : List (Entry P H)} {c : Connection P H} (run : Run start log c) (event : Event P H)
      (possible : c.Possible event) : Run start (log ++ [⟨c, event⟩]) (c.perform event).connection

theorem told_concat [PoolEntry P] (log : List (Entry P H)) (entry : Entry P H) :
    told (log ++ [entry]) = told log ++ entry.reaction.told := by
  simp [told]

theorem sent_concat [PoolEntry P] (log : List (Entry P H)) (entry : Entry P H) :
    sent (log ++ [entry]) = sent log ++ entry.reaction.sent := by
  simp [sent]

/-! ### How a query comes out -/

def writeFailure (c : Connection P H) (e : IoError) : ConnectionLost :=
  ⟨c.address, "write failed: " ++ e.message⟩

/-- The four ways in which a query comes out. -/
inductive Queried (c : Connection P H) (ops : List (Operation H)) :
    Reaction P H (Except RequestError Unit) → Prop
  | refused {e : Bson.EncodeError} (encoded : Batch.encode [] ops = .error e) :
      Queried c ops { connection := c, result := .error (.document (.encode e)) }
  | closed {batch : Batch H} {lost : ConnectionLost} (encoded : Batch.encode [] ops = .ok batch)
      (closed : c.closed = some lost) :
      Queried c ops {
        connection := c
        told := (batch.awaiting.map Prod.snd).map fun handler => (handler, .lost lost)
        result := .error (.lost lost) }
  | sent {batch : Batch H} (outbound : Outbound) (encoded : Batch.encode [] ops = .ok batch)
      (opened : c.closed = none) :
      Queried c ops {
        connection := {
          c with correlator := (stamp c.correlator batch.bytes batch.awaiting).2.1, outbound }
        sent := (stamp c.correlator batch.bytes batch.awaiting).2.2
        result := .ok () }
  | torn {batch : Batch H} (outbound : Outbound) (e : IoError) {unsent : List H}
      {rest : Correlator H} (bytes : Bytes) (encoded : Batch.encode [] ops = .ok batch)
      (opened : c.closed = none)
      (taken : takeAll (stamp c.correlator batch.bytes batch.awaiting).2.1
        (stamp c.correlator batch.bytes batch.awaiting).1 = (unsent, rest)) :
      Queried c ops {
        connection := {
          c with
          closed := some (c.writeFailure e), correlator := rest.drain.2,
          inbound := c.inbound.close .ended, outbound }
        told := (unsent ++ rest.waiting).map fun handler => (handler, .lost (c.writeFailure e))
        sent := bytes
        result := .error (.transport (.io e)) }

theorem queried_of_query {c : Connection P H} {ops : List (Operation H)}
    {r : Reaction P H (Except RequestError Unit)} (h : c.query ops = r) : Queried c ops r := by
  subst h
  unfold query
  split
  next e hEncode => exact .refused hEncode
  next batch hEncode =>
    split
    next lost hClosed =>
      have := Queried.closed hEncode hClosed
      rwa [List.map_map] at this
    next hOpen =>
      rcases hStamp : stamp c.correlator batch.bytes batch.awaiting with ⟨ids, correlator, bytes⟩
      rcases hWrite : c.outbound.write bytes with ⟨sent, failure, outbound⟩
      dsimp only
      rw [hWrite]
      cases failure with
      | none =>
        obtain rfl := Outbound.eq_of_write hWrite
        have hCase := Queried.sent outbound hEncode hOpen
        rw [hStamp] at hCase
        exact hCase
      | some e =>
        rcases hTaken : takeAll correlator ids with ⟨unsent, rest⟩
        have hStampTaken : takeAll (stamp c.correlator batch.bytes batch.awaiting).2.1
            (stamp c.correlator batch.bytes batch.awaiting).1 = (unsent, rest) := by
          rw [hStamp]
          exact hTaken
        have hCase := Queried.torn outbound e sent hEncode hOpen hStampTaken
        rw [List.map_append, Correlator.waiting, List.map_map] at hCase
        simp only [fail, hOpen, Option.getD_none]
        exact hCase

/-! ### The ids of a batch -/

section Stamp

variable (c : Correlator H) (bytes : Bytes) (awaiting : List (Nat × H))

theorem length_stamp : (stamp c bytes awaiting).1.length = awaiting.length := by
  induction awaiting generalizing c bytes with
  | nil => rfl
  | cons entry rest ih =>
    rw [stamp, List.length_cons, List.length_cons]
    exact congrArg (· + 1) (ih _ _)

theorem pending_stamp : (stamp c bytes awaiting).2.1.pending =
    c.pending ++ (stamp c bytes awaiting).1.zip (awaiting.map Prod.snd) := by
  induction awaiting generalizing c bytes with
  | nil => simp [stamp]
  | cons entry rest ih =>
    simp only [stamp, List.map_cons, List.zip_cons_cons]
    rw [ih, Correlator.register, List.append_assoc, List.singleton_append]

theorem waiting_stamp :
    (stamp c bytes awaiting).2.1.waiting = c.waiting ++ awaiting.map Prod.snd := by
  rw [Correlator.waiting, pending_stamp, List.map_append, List.map_snd_zip]
  · rfl
  · rw [length_stamp, List.length_map]

theorem sound_stamp {c : Correlator H} (hc : c.Sound) (bytes : Bytes) {awaiting : List (Nat × H)}
    (h : c.Admits (awaiting.map Prod.snd)) : (stamp c bytes awaiting).2.1.Sound := by
  induction awaiting generalizing c bytes with
  | nil => exact hc
  | cons entry rest ih =>
    obtain ⟨hFree, hRest⟩ := h
    exact ih (hc.register hFree _) _ hRest

end Stamp

theorem takeAll_eq {c : Correlator H} (hc : c.Sound) {entries : List (UInt32 × H)}
    {ids : List UInt32} {handlers : List H} (hLength : ids.length = handlers.length)
    (h : c.pending = entries ++ ids.zip handlers) :
    takeAll c ids = (handlers, { c with pending := entries }) := by
  induction ids generalizing c handlers with
  | nil =>
    obtain rfl := List.eq_nil_of_length_eq_zero hLength.symm
    rw [List.zip_nil_left, List.append_nil] at h
    rw [takeAll, ← h]
  | cons id ids ih =>
    obtain _ | ⟨handler, handlers⟩ := handlers
    · cases hLength
    · have hTake := Correlator.take_eq_of_pending hc h
      have hSound := hc.take id
      rw [hTake] at hSound
      have hRest := ih hSound (by simpa using hLength) rfl
      simp only [takeAll, hTake, hRest, Option.toList_some, List.singleton_append]

/-- When a write fails, the handlers of its batch are taken out again and all others stay. -/
theorem takeAll_stamp {c : Correlator H} (hc : c.Sound) (bytes : Bytes)
    {awaiting : List (Nat × H)} (h : c.Admits (awaiting.map Prod.snd)) :
    takeAll (stamp c bytes awaiting).2.1 (stamp c bytes awaiting).1 =
      (awaiting.map Prod.snd,
        { (stamp c bytes awaiting).2.1 with pending := c.pending }) := by
  refine takeAll_eq (sound_stamp hc bytes h) ?_ (pending_stamp c bytes awaiting)
  rw [length_stamp, List.length_map]

/-! ### How a step of reading comes out -/

/-- The handler of the reply that is being read, if there is one. -/
def inHand (c : Connection P H) : Option H :=
  match c.phase with
  | .inReply _ handler _ => handler
  | .betweenReplies | .stopped => none

/-- The failure at which reading stops in the next step, if it does, and the source that is left. -/
def readFailure? (c : Connection P H) : Option (TransportError × Source) :=
  match c.phase with
  | .stopped => none
  | .betweenReplies =>
    match ReplyFrame.read c.maxMessageSize c.inbound with
    | (.failed e, inbound) => some (e, inbound)
    | _ => none
  | .inReply frame _ delivered =>
    if delivered < frame.header.documentCount.toInt.toNat then
      match frame.readDocument c.inbound with
      | (.failed e, inbound) => some (e, inbound)
      | _ => none
    else
      match frame.finish with
      | .error e => some (.protocol e, c.inbound)
      | .ok () => none

/-- The ways in which a step of reading comes out. -/
inductive Reads (c : Connection P H) : Reaction P H Unit → Prop
  | frame {frame : ReplyFrame} {inbound : Source} (between : c.phase = .betweenReplies)
      (read : ReplyFrame.read c.maxMessageSize c.inbound = (.done frame, inbound))
      (referenced : c.referenced = true) :
      Reads c {
        connection := {
          c with
          inbound, correlator := (c.correlator.take frame.responseTo).2,
          phase := .inReply frame (c.correlator.take frame.responseTo).1 0 }
        result := () }
  | abandoned {frame : ReplyFrame} {inbound : Source} (between : c.phase = .betweenReplies)
      (read : ReplyFrame.read c.maxMessageSize c.inbound = (.done frame, inbound))
      (unreferenced : c.referenced = false) :
      Reads c { connection := { c with inbound, phase := .stopped }, result := () }
  | document {frame next : ReplyFrame} {handler : Option H} {delivered : Nat} {data : Bytes}
      {inbound : Source} (inReply : c.phase = .inReply frame handler delivered)
      (more : delivered < frame.header.documentCount.toInt.toNat)
      (read : frame.readDocument c.inbound = (.done (data, next), inbound)) :
      Reads c {
        connection := { c with inbound, phase := .inReply next handler (delivered + 1) }
        told := handler.toList.map (·, .document next.header delivered data)
        result := () }
  | complete {frame : ReplyFrame} {handler : Option H} {delivered : Nat}
      (inReply : c.phase = .inReply frame handler delivered)
      (all : ¬delivered < frame.header.documentCount.toInt.toNat)
      (filled : frame.finish = .ok ()) :
      Reads c {
        connection := { c with phase := .betweenReplies }
        told := handler.toList.map (·, .complete frame.header)
        result := () }
  | stop (inbound : Source) {e : TransportError} (running : c.phase ≠ .stopped)
      (failed : c.readFailure? = some (e, inbound)) :
      Reads c (stopReading { c with inbound } c.inHand e)

theorem reads_of_readStep {c : Connection P H} {r : Reaction P H Unit} (h : c.readStep = some r) :
    Reads c r := by
  unfold readStep at h
  split at h
  next => cases h
  next hPhase =>
    have hHand : c.inHand = none := by rw [inHand, hPhase]
    split at h
    · cases h
    next e inbound hRead =>
      cases h
      rw [← hHand]
      exact .stop inbound (by rw [hPhase]; nofun) (by simp only [readFailure?, hPhase, hRead])
    next frame inbound hRead =>
      split at h
      next hReferenced =>
        cases h
        exact .frame hPhase hRead hReferenced
      next hReferenced =>
        cases h
        exact .abandoned hPhase hRead (by simpa using hReferenced)
  next frame handler delivered hPhase =>
    have hHand : c.inHand = handler := by rw [inHand, hPhase]
    have hRunning : c.phase ≠ .stopped := by rw [hPhase]; nofun
    split at h
    next hMore =>
      split at h
      · cases h
      next e inbound hRead =>
        cases h
        rw [← hHand]
        exact .stop inbound hRunning (by simp only [readFailure?, hPhase, if_pos hMore, hRead])
      next data next inbound hRead =>
        cases h
        exact .document hPhase hMore hRead
    next hAll =>
      split at h
      next e hFinish =>
        cases h
        rw [← hHand]
        exact .stop c.inbound hRunning
          (by simp only [readFailure?, hPhase, if_neg hAll, hFinish])
      next hFinish =>
        cases h
        exact .complete hPhase hAll hFinish

/-! ### How an event comes out -/

/-- The ways in which an event comes out.  A quiet one tells nobody anything, sends nothing and
leaves correlator and phase alone. -/
inductive Performed [PoolEntry P] (c : Connection P H) :
    Event P H → Reaction P H (Except RequestError Unit) → Prop
  | query {ops : List (Operation H)} {r : Reaction P H (Except RequestError Unit)}
      (queried : Queried c ops r) : Performed c (.query ops) r
  | close : Performed c .close { c.close with result := .ok () }
  | drop : Performed c .drop { c.dispose with result := .ok () }
  | read {r : Reaction P H Unit} (step : c.readStep = some r) :
      Performed c .read { r with result := .ok () }
  | quiet {event : Event P H} (lifecycle : Lifecycle P) (inbound : Source) (outbound : Outbound)
      (result : Except RequestError Unit) (noQuery : ∀ ops, event ≠ .query ops) :
      Performed c event { connection := { c with lifecycle, inbound, outbound }, result }

theorem performed_of_perform [PoolEntry P] {c : Connection P H} {event : Event P H}
    {r : Reaction P H (Except RequestError Unit)} (h : c.perform event = r) :
    Performed c event r := by
  subst h
  have hLifecycle {event : Event P H} (result : Except LifecycleError (Lifecycle P))
      (hNoQuery : ∀ ops, event ≠ .query ops) : Performed c event (c.adoptLifecycle result) := by
    cases result with
    | ok lifecycle => exact .quiet lifecycle c.inbound c.outbound _ hNoQuery
    | error e => exact .quiet c.lifecycle c.inbound c.outbound _ hNoQuery
  cases event with
  | query ops => exact .query (queried_of_query rfl)
  | close => exact .close
  | drop => exact .drop
  | acquire pool => exact hLifecycle _ nofun
  | reserve => exact hLifecycle _ nofun
  | release force => exact hLifecycle _ nofun
  | arrive b => exact .quiet c.lifecycle (c.inbound.append b) c.outbound _ nofun
  | hangUp ending => exact .quiet c.lifecycle (c.inbound.close ending) c.outbound _ nofun
  | restrict outbound => exact .quiet c.lifecycle c.inbound outbound _ nofun
  | read =>
    unfold perform
    dsimp only
    split
    next => exact .quiet c.lifecycle c.inbound c.outbound _ nofun
    next r hStep => exact .read hStep

theorem settle_of_none {c : Connection P H} (h : c.readStep = none) :
    c.settle = { connection := c, result := () } := by
  rw [settle]
  split
  next => rfl
  next r hStep =>
    rw [h] at hStep
    cases hStep

theorem settle_of_some {c : Connection P H} {r : Reaction P H Unit} (h : c.readStep = some r) :
    c.settle = { r.connection.settle with told := r.told ++ r.connection.settle.told } := by
  rw [settle]
  split
  next hStep =>
    rw [h] at hStep
    cases hStep
  next r' hStep =>
    rw [h] at hStep
    cases hStep
    rfl

/-- Reading as far as the bytes allow is a run of single steps. -/
theorem Run.settle [PoolEntry P] {start c : Connection P H} {log : List (Entry P H)}
    (run : Run start log c) :
    ∃ more, Run start (log ++ more) c.settle.connection ∧ told more = c.settle.told := by
  induction c using Connection.settle.induct generalizing log with
  | case1 c hStep =>
    rw [settle_of_none hStep]
    exact ⟨[], by rwa [List.append_nil], rfl⟩
  | case2 c r hStep ih =>
    have hPerform : c.perform .read = { r with result := .ok () } := by
      rw [perform]
      simp only [hStep]
    have hNext : Run start (log ++ [⟨c, .read⟩]) r.connection := by
      have := run.next .read trivial
      rwa [hPerform] at this
    obtain ⟨more, hRun, hTold⟩ := ih hNext
    rw [settle_of_some hStep]
    refine ⟨⟨c, .read⟩ :: more, ?_, ?_⟩
    · rwa [List.append_cons]
    · show (c.perform .read).told ++ told more = r.told ++ r.connection.settle.told
      rw [hPerform, hTold]

end Connection

end DocumentLink
