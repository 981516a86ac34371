import DocumentLink.Proofs.Connection.Story
import DocumentLink.Proofs.Reply.Grammar

/-! What reading makes of whole replies.  A reply that stands at the front of the inbound bytes
is taken off them whole, and the handler of its request is told its documents in order and then
that they are complete; nobody is told anything of a reply to a request that is not in flight. -/

namespace DocumentLink

/-- What is told of a reply from its document number `k` on. -/
def remainder (header : ReplyHeader) : Nat → List Bytes → List Notice
  | _, [] => [.complete header]
  | k, data :: rest => .document header k data :: remainder header (k + 1) rest

theorem remainder_eq (header : ReplyHeader) (k : Nat) (documents : List Bytes) :
    remainder header k documents =
      (documents.mapIdx fun i data => .document header (k + i) data) ++ [.complete header] := by
  induction documents generalizing k with
  | nil => rfl
  | cons data rest ih => simp [remainder, ih, List.mapIdx_cons, Nat.add_comm, Nat.add_left_comm]

theorem remainder_zero (header : ReplyHeader) (documents : List Bytes) :
    remainder header 0 documents = upTo header documents ++ [.complete header] := by
  simp [remainder_eq, upTo]

variable {P H : Type}

/-- A handler, if there is one, is told several things. -/
def tellAll (handler : Option H) (notices : List Notice) : List (H × Notice) :=
  handler.toList.flatMap fun h => notices.map (h, ·)

theorem tellAll_append (handler : Option H) (first second : List Notice) :
    tellAll handler (first ++ second) = tellAll handler first ++ tellAll handler second := by
  cases handler <;> simp [tellAll]

/-- What handlers are told of replies, each with the id of its request, and the requests left. -/
def dispatch (correlator : Correlator H) :
    List (UInt32 × Reply) → List (H × Notice) × Correlator H
  | [] => ([], correlator)
  | (id, reply) :: rest =>
    let (handler, correlator) := correlator.take id
    let (told, correlator) := dispatch correlator rest
    (tellAll handler (remainder reply.header 0 reply.documents) ++ told, correlator)

/-- Bytes that are replies one behind the other, each with the id of its request. -/
inductive AreReplies (maxMessageSize : Nat) : List (UInt32 × Reply) → Bytes → Prop
  | nil : AreReplies maxMessageSize [] []
  | cons {id : UInt32} {reply : Reply} {replies : List (UInt32 × Reply)} {piece b : Bytes}
      (first : IsReply maxMessageSize id reply piece) (rest : AreReplies maxMessageSize replies b) :
      AreReplies maxMessageSize ((id, reply) :: replies) (piece ++ b)

/-- A reaction that comes after something that has been told. -/
def Reaction.after (told : List (H × Notice)) (later : Reaction P H Unit) : Reaction P H Unit :=
  { later with told := told ++ later.told }

theorem Reaction.after_after (first second : List (H × Notice)) (r : Reaction P H Unit) :
    (r.after second).after first = r.after (first ++ second) := by
  simp [after]

namespace Connection

variable {c : Connection P H}

theorem settle_of_readStep {r : Reaction P H Unit} (h : c.readStep = some r) :
    c.settle = r.connection.settle.after r.told := by
  rw [settle_of_some h]
  rfl

theorem readStep_document {frame next : ReplyFrame} {handler : Option H} {delivered : Nat}
    {data : Bytes} {inbound : Source} (hPhase : c.phase = .inReply frame handler delivered)
    (hMore : delivered < frame.header.documentCount.toInt.toNat)
    (hRead : frame.readDocument c.inbound = (.done (data, next), inbound)) :
    c.readStep = some {
      connection := { c with inbound, phase := .inReply next handler (delivered + 1) }
      told := tellAll handler [.document frame.header delivered data]
      result := () } := by
  have hHeader := ReplyFrame.header_of_readDocument hRead
  simp only [readStep, hPhase, if_pos hMore, hRead, hHeader]
  cases handler <;> rfl

theorem readStep_complete {frame : ReplyFrame} {handler : Option H} {delivered : Nat}
    (hPhase : c.phase = .inReply frame handler delivered)
    (hAll : ¬delivered < frame.header.documentCount.toInt.toNat)
    (hFinish : frame.finish = .ok ()) :
    c.readStep = some {
      connection := { c with phase := .betweenReplies }
      told := tellAll handler [.complete frame.header]
      result := () } := by
  simp only [readStep, hPhase, if_neg hAll, hFinish]
  cases handler <;> rfl

theorem readStep_frame {frame : ReplyFrame} {inbound : Source} (hPhase : c.phase = .betweenReplies)
    (hReferenced : c.referenced = true)
    (hRead : ReplyFrame.read c.maxMessageSize c.inbound = (.done frame, inbound)) :
    c.readStep = some {
      connection := {
        c with
        inbound, correlator := (c.correlator.take frame.responseTo).2,
        phase := .inReply frame (c.correlator.take frame.responseTo).1 0 }
      result := () } := by
  simp only [readStep, hPhase, hRead, if_pos hReferenced]

/-- The documents that are left of the reply in hand are told in order. -/
theorem settle_documents {frame : ReplyFrame} {handler : Option H} {k : Nat}
    {documents : List Bytes} {inbound : Source} (hPhase : c.phase = .inReply frame handler k)
    (hCount : k + documents.length = frame.header.documentCount.toInt.toNat)
    (hRead : frame.readDocuments c.inbound documents.length = (.done documents, inbound)) :
    c.settle = ({ c with inbound, phase := .betweenReplies } : Connection P H).settle.after
      (tellAll handler (remainder frame.header k documents)) := by
  induction documents generalizing c frame k with
  | nil =>
    obtain ⟨_, _, hInbound, hFilled⟩ := ReplyFrame.readDocuments_eq_done_iff.mp hRead
    have hAll : ¬k < frame.header.documentCount.toInt.toNat := by
      rw [← hCount]
      simp
    have hFinish : frame.finish = .ok () := ReplyFrame.finish_eq_ok_iff.mpr hFilled
    have hSame : c.inbound = inbound := hInbound
    rw [settle_of_readStep (readStep_complete hPhase hAll hFinish), ← hSame]
    rfl
  | cons data rest ih =>
    rw [List.length_cons, ReplyFrame.readDocuments] at hRead
    obtain ⟨⟨data', next⟩, s, hFirst, hRest⟩ := Reading.andThen_eq_done_iff.mp hRead
    obtain ⟨_, _, hMore, hDone⟩ := Reading.andThen_eq_done_iff.mp hRest
    cases hDone
    have hHeader := ReplyFrame.header_of_readDocument hFirst
    rw [List.length_cons] at hCount
    have hLater := @ih { c with inbound := s, phase := .inReply next handler (k + 1) } next (k + 1)
      rfl (by rw [hHeader]; omega) hMore
    rw [settle_of_readStep (readStep_document hPhase (by omega) hFirst), hLater,
      Reaction.after_after, hHeader, ← tellAll_append]
    rfl

/-- A whole reply is told to the handler that waits for it. -/
theorem settle_reply {id : UInt32} {reply : Reply} {piece rest : Bytes} {ending : Ending}
    (hPhase : c.phase = .betweenReplies) (hReferenced : c.referenced = true)
    (hReply : IsReply c.maxMessageSize id reply piece)
    (hInbound : c.inbound = ⟨piece ++ rest, ending⟩) :
    c.settle = ({ c with
        inbound := ⟨rest, ending⟩, correlator := (c.correlator.take id).2,
        phase := .betweenReplies } : Connection P H).settle.after
      (tellAll (c.correlator.take id).1 (remainder reply.header 0 reply.documents)) := by
  have hRead : readReply c.maxMessageSize c.inbound = (.done (id, reply), ⟨rest, ending⟩) :=
    readReply_eq_done_iff.mpr ⟨piece, hReply, hInbound⟩
  obtain ⟨frame, s, hFrame, hRest⟩ := Reading.andThen_eq_done_iff.mp hRead
  obtain ⟨documents, _, hDocuments, hDone⟩ := Reading.andThen_eq_done_iff.mp hRest
  cases hDone
  -- The fixed fields hand the reply to its handler; from there on it is the reply in hand.
  obtain ⟨hCount, _⟩ := ReplyFrame.readDocuments_eq_done_iff.mp hDocuments
  rw [← hCount] at hDocuments
  rw [settle_of_readStep (readStep_frame hPhase hReferenced hFrame),
    settle_documents rfl (by rw [Nat.zero_add, hCount]) hDocuments, Reaction.after_after]
  rfl

/-- Replies that stand one behind the other are told one after the other. -/
theorem settle_replies {replies : List (UInt32 × Reply)} {b rest : Bytes} {ending : Ending}
    (hPhase : c.phase = .betweenReplies) (hReferenced : c.referenced = true)
    (hReplies : AreReplies c.maxMessageSize replies b)
    (hInbound : c.inbound = ⟨b ++ rest, ending⟩) :
    c.settle = ({ c with
        inbound := ⟨rest, ending⟩,
        correlator := (dispatch c.correlator replies).2 } : Connection P H).settle.after
      (dispatch c.correlator replies).1 := by
  induction replies generalizing c b with
  | nil =>
    cases hReplies
    have hSame : c.inbound = ⟨rest, ending⟩ := hInbound
    rw [← hSame]
    rfl
  | cons r replies ih =>
    cases hReplies with
    | @cons id reply _ piece b hReply hReplies =>
      rw [List.append_assoc] at hInbound
      have hLater := @ih { c with
        inbound := ⟨b ++ rest, ending⟩, correlator := (c.correlator.take id).2,
        phase := .betweenReplies } b rfl hReferenced hReplies rfl
      rw [settle_reply hPhase hReferenced hReply hInbound, hLater, Reaction.after_after, dispatch,
        hPhase]

end Connection

end DocumentLink
