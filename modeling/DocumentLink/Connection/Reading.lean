import DocumentLink.Connection.State

/-! The reading side of a connection.  `readStep` is one step of it: the fixed fields of a reply,
with the look-up of the handler; one document; or the end of a reply.  `settle` takes such steps
until the next one has to wait for bytes or reading has stopped. -/

namespace DocumentLink

namespace Connection

variable {P H : Type}

/-- Reading cannot go on.  The handler of the reply in hand is told first, and then the
connection is closed, if anything still refers to it. -/
def stopReading (c : Connection P H) (handler : Option H) (e : TransportError) :
    Reaction P H Unit :=
  let told := handler.toList.map fun h => (h, Notice.lost ⟨c.address, e.message⟩)
  let stopped := { c with phase := .stopped }
  if c.referenced then
    let failed := stopped.fail e.message
    { failed with told := told ++ failed.told }
  else { connection := stopped, told, result := () }

/-- The next step of reading, if it can be taken. -/
def readStep (c : Connection P H) : Option (Reaction P H Unit) :=
  match c.phase with
  | .stopped => none
  | .betweenReplies =>
    match ReplyFrame.read c.maxMessageSize c.inbound with
    | (.waiting, _) => none
    | (.failed e, inbound) => some (stopReading { c with inbound } none e)
    | (.done frame, inbound) =>
      if c.referenced then
        let (handler, correlator) := c.correlator.take frame.responseTo
        some {
          connection := { c with inbound, correlator, phase := .inReply frame handler 0 }
          result := () }
      else some { connection := { c with inbound, phase := .stopped }, result := () }
  | .inReply frame handler delivered =>
    if delivered < frame.header.documentCount.toInt.toNat then
      match frame.readDocument c.inbound with
      | (.waiting, _) => none
      | (.failed e, inbound) => some (stopReading { c with inbound } handler e)
      | (.done (data, frame), inbound) =>
        some {
          connection := { c with inbound, phase := .inReply frame handler (delivered + 1) }
          told := handler.toList.map (·, .document frame.header delivered data)
          result := () }
    else
      match frame.finish with
      | .error e => some (stopReading c handler (.protocol e))
      | .ok () =>
        some {
          connection := { c with phase := .betweenReplies }
          told := handler.toList.map (·, .complete frame.header)
          result := () }

/-- How much reading is left at most: every step uses bytes up or ends a reply. -/
def readingLeft (c : Connection P H) : Nat :=
  2 * c.inbound.bytes.length +
    match c.phase with
    | .betweenReplies => 1
    | .inReply .. => 2
    | .stopped => 0

theorem readingLeft_stopReading (c : Connection P H) (handler : Option H) (e : TransportError) :
    (stopReading c handler e).connection.readingLeft = 2 * c.inbound.bytes.length := by
  simp only [stopReading]
  split <;> simp [fail, readingLeft, Source.close]
  split <;> simp

theorem readingLeft_readStep {c : Connection P H} {r : Reaction P H Unit}
    (h : c.readStep = some r) : r.connection.readingLeft < c.readingLeft := by
  simp only [readStep] at h
  split at h
  · cases h
  next hPhase =>
    have hLe := ReplyFrame.length_read_le c.maxMessageSize c.inbound
    split at h
    · cases h
    next hRead =>
      rw [hRead] at hLe
      cases h
      rw [readingLeft_stopReading]
      simp only [readingLeft, hPhase]
      dsimp only at *
      omega
    next hRead =>
      have := ReplyFrame.length_of_read_done hRead
      split at h <;> cases h <;> simp only [readingLeft, hPhase] <;> omega
  next frame handler delivered hPhase =>
    split at h
    · have hLe := frame.length_readDocument_le c.inbound
      split at h
      · cases h
      next hRead =>
        rw [hRead] at hLe
        cases h
        rw [readingLeft_stopReading]
        simp only [readingLeft, hPhase]
        dsimp only at *
        omega
      next hRead =>
        have := ReplyFrame.length_of_readDocument_done hRead
        cases h
        simp only [readingLeft, hPhase]
        omega
    · split at h <;> cases h
      · rw [readingLeft_stopReading]
        simp only [readingLeft, hPhase]
        omega
      · simp only [readingLeft, hPhase]
        omega

/-- Reads as far as the bytes that have arrived allow. -/
def settle (c : Connection P H) : Reaction P H Unit :=
  match _ : c.readStep with
  | none => { connection := c, result := () }
  | some r =>
    let later := settle r.connection
    { later with told := r.told ++ later.told }
termination_by c.readingLeft
decreasing_by exact readingLeft_readStep (by assumption)

/-- Bytes of the server arrive, and perhaps the end of its side of the stream after them. -/
def receive (c : Connection P H) (b : Bytes) (ending : Ending) : Reaction P H Unit :=
  settle { c with inbound := (c.inbound.append b).close ending }

end Connection

/-- An operation followed by the reading that it makes possible. -/
def Reaction.settled {P H α : Type} (r : Reaction P H α) : Reaction P H α :=
  let later := r.connection.settle
  { r with connection := later.connection, told := r.told ++ later.told }

end DocumentLink
