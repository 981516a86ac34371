import DocumentLink.Proofs.Bson.RoundTrip
import DocumentLink.Proofs.Connection.Routing

/-! Waiting for a whole reply.  A collector whose request is answered holds exactly the reply,
with the bytes of its documents in order; these decode to the normal forms of the documents that
were sent, all of them or none. -/

namespace DocumentLink

namespace Collector

/-- A collector after several calls. -/
def after (calls : List Notice) : Collector := calls.foldl tell {}

theorem foldl_tell_remainder (collector : Collector) (header : ReplyHeader) (k : Nat)
    (documents : List Bytes) : (remainder header k documents).foldl tell collector =
      { collector.resolve (.ok ⟨header, collector.documents ++ documents⟩) with
        documents := [] } := by
  induction documents generalizing collector k with
  | nil => simp [remainder, tell]
  | cons data rest ih => simp [remainder, tell, ih, resolve]

theorem wait_after_callsFor (reply : Reply) : (after (callsFor (some reply))).wait = .ok reply := by
  rw [after, callsFor, ← remainder_zero, foldl_tell_remainder]
  rfl

end Collector

theorem Reply.decode?_eq_none_iff {reply : Reply} :
    reply.decode? = none ↔ ∃ data ∈ reply.documents, Bson.decode? data = none :=
  mapM_eq_none_iff

/-- Documents that were written decode to their normal forms. -/
theorem mapM_decode? {ds : List Bson.Document} {documents : List Bytes}
    (h : ds.mapM (fun d => (Bson.Value.document d).marshal) = .ok documents)
    (hMax : ∀ data ∈ documents, data.length ≤ maxLength) :
    documents.mapM Bson.decode? = some (ds.map Bson.Document.normal) := by
  induction mapM_eq_ok_iff.mp h with
  | nil => rfl
  | cons hFirst hRest ih =>
    obtain ⟨hHere, hLater⟩ := List.forall_mem_cons.mp hMax
    rw [List.mapM_cons, Bson.decode?_of_marshal hFirst hHere, ih (mapM_eq_ok_iff.mpr hRest) hLater]
    rfl

namespace Connection

variable {P H : Type} [DecidableEq H] {c : Connection P H}

/-- What a collector that waits as `handler` ends up with. -/
def collected (handler : H) (r : Reaction P H Unit) : Except RequestError Reply :=
  (Collector.after (callsOf handler r.told)).wait

theorem collected_receive (hc : c.Coherent) (hOpen : c.closed = none)
    (hPhase : c.phase = .betweenReplies) (hInbound : c.inbound = ⟨[], .live⟩)
    (hOwn : c.correlator.waiting.Nodup) {id : UInt32} {handler : H}
    (hPending : (id, handler) ∈ c.correlator.pending) {reply : Reply} {b : Bytes}
    (hReply : IsReply c.maxMessageSize id reply b) :
    collected handler (c.receive b .live) = .ok reply ∧
      (c.receive b .live).connection.closed = none := by
  have hReplies : AreReplies c.maxMessageSize [(id, reply)] b := by
    rw [← List.append_nil b]
    exact .cons hReply .nil
  have hCalls := callsOf_dispatch hc.sound hOwn hPending [(id, reply)]
  rw [List.lookup_cons_self] at hCalls
  have hAll : AreReplies c.maxMessageSize [(id, reply)] (c.inbound.bytes ++ b) := by
    rw [hInbound]
    exact hReplies
  rw [receive_dispatch hPhase (hc.referenced hOpen) (by rw [hInbound]) hAll, collected, hCalls]
  exact ⟨Collector.wait_after_callsFor reply, hOpen⟩

theorem length_le_message {header : ReplyHeader} {id : UInt32} {documents : List Bytes}
    {data : Bytes} (h : data ∈ documents) :
    data.length ≤ (header.message id documents).length := by
  have hPart := (List.sublist_flatten_of_mem h).length_le
  simp only [ReplyHeader.message, List.length_append]
  omega

/-- Who waits for a reply gets it with the header and the documents that the server sent, and these
decode to the normal forms of what was written.  Documents that are no documents at all are handed
over as well; then nothing decodes and the connection stays open. -/
theorem wait_collects_reply (hc : c.Coherent) (hOpen : c.closed = none)
    (hPhase : c.phase = .betweenReplies) (hInbound : c.inbound = ⟨[], .live⟩)
    (hOwn : c.correlator.waiting.Nodup) {id : UInt32} {handler : H}
    (hPending : (id, handler) ∈ c.correlator.pending) :
    (∀ (ds : List Bson.Document) (documents : List Bytes) (header : ReplyHeader),
        ds.mapM (fun d => (Bson.Value.document d).marshal) = .ok documents →
        header.documentCount.toInt = ds.length →
        (header.message id documents).length ≤ c.maxMessageSize →
        (header.message id documents).length ≤ maxLength →
        collected handler (c.receive (header.message id documents) .live) =
            .ok ⟨header, documents⟩ ∧
          Reply.decode? ⟨header, documents⟩ = some (ds.map Bson.Document.normal)) ∧
      ∀ reply b, IsReply c.maxMessageSize id reply b →
        collected handler (c.receive b .live) = .ok reply ∧
          reply.header.documentCount.toInt = reply.documents.length ∧
          (c.receive b .live).connection.closed = none ∧
          (reply.decode? = none ↔ ∃ data ∈ reply.documents, Bson.decode? data = none) := by
  constructor
  · intro ds documents header hMarshal hCount hBounded hLength
    have hMax : ∀ data ∈ documents, data.length ≤ maxLength :=
      fun data h => Nat.le_trans (length_le_message h) hLength
    have hDelimited : ∀ data ∈ documents, SelfDelimiting 5 data := by
      intro data h
      obtain ⟨d, _, hd⟩ := exists_of_mem_mapM hMarshal h
      exact Bson.Value.selfDelimiting_of_marshal hd (hMax data h)
    rw [(mapM_eq_ok_iff.mp hMarshal).length_eq] at hCount
    have hReply := isReply_message id hCount hDelimited hBounded hLength
    exact ⟨(collected_receive hc hOpen hPhase hInbound hOwn hPending hReply).1,
      mapM_decode? hMarshal hMax⟩
  · intro reply b hReply
    obtain ⟨hCollected, hStays⟩ :=
      collected_receive hc hOpen hPhase hInbound hOwn hPending hReply
    exact ⟨hCollected, hReply.count, hStays, Reply.decode?_eq_none_iff⟩

/-- A document with a repeated key and an empty one come back in their normal forms. -/
theorem wait_collects_two_documents :
    let c : Connection Unit Nat := {
      address := "db", maxMessageSize := 100, lifecycle := .acquired ()
      correlator := { lastId := 1, pending := [(1, 11)] } }
    let ds : List Bson.Document := [[("n", .unsigned 1), ("n", .int32 2)], []]
    ∃ documents, ds.mapM (fun d => (Bson.Value.document d).marshal) = .ok documents ∧
      collected 11 (c.receive (ReplyHeader.message ⟨0, 0, 0, 2⟩ 1 documents) .live) =
        .ok ⟨⟨0, 0, 0, 2⟩, documents⟩ ∧
      Reply.decode? ⟨⟨0, 0, 0, 2⟩, documents⟩ = some [[("n", .int32 2)], []] := by
  intro c ds
  have hc : c.Coherent := ⟨⟨by decide, by decide⟩, nofun, nofun, nofun⟩
  obtain ⟨hSent, _⟩ :=
    wait_collects_reply hc rfl rfl rfl (by decide) (List.mem_singleton_self (1, 11))
  exact ⟨_, rfl, hSent ds _ ⟨0, 0, 0, 2⟩ rfl rfl (by decide) (by decide)⟩

end Connection

end DocumentLink
