import DocumentLink.Proofs.Connection.Run
import DocumentLink.Proofs.Reply.Frame

/-! What every run keeps of the state of a connection.  Requests in flight have ids of their own, a
closed connection has no request in flight, a connection that nothing refers to is closed, and no
reply has more documents read than it announced. -/

namespace DocumentLink.Connection

variable {P H : Type}

/-- The invariant of a connection. -/
structure Coherent (c : Connection P H) : Prop where
  sound : c.correlator.Sound
  drained : c.isClosed = true → c.correlator.pending = []
  disposed : c.referenced = false → c.isClosed = true
  delivered : ∀ frame handler k, c.phase = .inReply frame handler k →
    (k : Int) ≤ frame.header.documentCount.toInt

theorem Coherent.referenced {c : Connection P H} (hc : c.Coherent) (hOpen : c.closed = none) :
    c.referenced = true := by
  by_contra hNot
  have hClosed := hc.disposed (by simpa using hNot)
  rw [isClosed, hOpen] at hClosed
  cases hClosed

theorem Coherent.empty_of_closed {c : Connection P H} (hc : c.Coherent) {lost : ConnectionLost}
    (hClosed : c.closed = some lost) : c.correlator.pending = [] := by
  apply hc.drained
  rw [isClosed, hClosed]
  rfl

theorem Coherent.opened (address : String) (maxMessageSize : Nat) (pool : P) :
    Coherent (opened address maxMessageSize pool : Connection P H) := by
  refine ⟨Correlator.Sound.empty 0, ?_, ?_, ?_⟩
  · intro _
    rfl
  · intro h
    cases h
  · intro _ _ _ h
    cases h

theorem Coherent.fail {c : Connection P H} (hc : c.Coherent) (reason : String) :
    (c.fail reason).connection.Coherent := by
  refine ⟨Correlator.Sound.drain, ?_, ?_, hc.delivered⟩
  · intro _
    rfl
  · intro _
    rfl

theorem Coherent.stopReading {c : Connection P H} (hc : c.Coherent) (handler : Option H)
    (e : TransportError) : (stopReading c handler e).connection.Coherent := by
  have hStopped : ({ c with phase := .stopped } : Connection P H).Coherent :=
    ⟨hc.sound, hc.drained, hc.disposed, nofun⟩
  unfold Connection.stopReading
  dsimp only
  split
  · exact hStopped.fail _
  · exact hStopped

theorem Coherent.query {c : Connection P H} (hc : c.Coherent) {ops : List (Operation H)}
    (hReturns : c.Returns ops) {r : Reaction P H (Except RequestError Unit)}
    (h : Queried c ops r) : r.connection.Coherent := by
  cases h with
  | refused _ => exact hc
  | closed _ _ => exact hc
  | sent outbound hEncode hOpen =>
    refine ⟨sound_stamp hc.sound _ (hReturns _ hEncode hOpen), ?_, hc.disposed, hc.delivered⟩
    intro hClosed
    rw [isClosed, hOpen] at hClosed
    cases hClosed
  | torn outbound e bytes _ _ _ =>
    refine ⟨Correlator.Sound.drain, ?_, ?_, hc.delivered⟩
    · intro _
      rfl
    · intro _
      rfl

theorem Coherent.read {c : Connection P H} (hc : c.Coherent) {r : Reaction P H Unit}
    (h : c.readStep = some r) : r.connection.Coherent := by
  cases reads_of_readStep h with
  | @frame frame inbound _ hRead _ =>
    refine ⟨hc.sound.take _, ?_, hc.disposed, ?_⟩
    · intro hClosed
      show c.correlator.pending.filter _ = []
      rw [hc.drained hClosed]
      rfl
    · rintro _ _ _ ⟨⟩
      obtain ⟨_, _, _, _, _, _, _, hCount, _⟩ := ReplyFrame.read_eq_done_iff.mp hRead
      exact hCount
  | abandoned _ _ _ => exact ⟨hc.sound, hc.drained, hc.disposed, nofun⟩
  | document _ hMore hRead =>
    refine ⟨hc.sound, hc.drained, hc.disposed, ?_⟩
    rintro _ _ _ ⟨⟩
    rw [ReplyFrame.header_of_readDocument hRead]
    omega
  | complete _ _ _ => exact ⟨hc.sound, hc.drained, hc.disposed, nofun⟩
  | stop inbound _ =>
    have hRead : ({ c with inbound } : Connection P H).Coherent :=
      ⟨hc.sound, hc.drained, hc.disposed, hc.delivered⟩
    exact hRead.stopReading _ _

theorem Coherent.perform [PoolEntry P] {c : Connection P H} (hc : c.Coherent) {event : Event P H}
    (hPossible : c.Possible event) : (c.perform event).connection.Coherent := by
  generalize hPerform : c.perform event = r
  cases performed_of_perform hPerform with
  | query hQueried => exact hc.query hPossible.2 hQueried
  | close => exact hc.fail _
  | drop =>
    have hFailed := hc.fail "socket dropped"
    exact ⟨hFailed.sound, hFailed.drained, fun _ => rfl, hFailed.delivered⟩
  | read hStep => exact hc.read hStep
  | quiet _ _ _ _ _ => exact ⟨hc.sound, hc.drained, hc.disposed, hc.delivered⟩

theorem Run.coherent [PoolEntry P] {start c : Connection P H} {log : List (Entry P H)}
    (run : Run start log c) (hStart : start.Coherent) : c.Coherent := by
  induction run with
  | refl => exact hStart
  | next run event hPossible ih => exact ih.perform hPossible

end DocumentLink.Connection
