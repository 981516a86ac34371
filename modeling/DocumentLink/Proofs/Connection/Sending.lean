import DocumentLink.Proofs.Bytes
import DocumentLink.Proofs.Connection.Coherent

/-! What queries send.  `Sends` is the specification: the messages of the operations go out in
order, and those that wait for a reply carry the id under which their handler was registered, in the
four bytes that were zero.  The positions where ids are put were recorded while the batch was laid
out; they stay right while ids are put in, since that changes no length. -/

namespace DocumentLink

def Message.requestId (message : Bytes) : UInt32 :=
  Bytes.toUInt32 ((message.drop requestIdAt).take 4)

def Message.withRequestId (message : Bytes) (id : UInt32) : Bytes :=
  message.patch requestIdAt (Bytes.ofUInt32 id)

/-- The place of an id lies in the header. -/
theorem Message.requestId_fits {message : Bytes} (h : headerSize ≤ message.length) (id : UInt32) :
    requestIdAt + (Bytes.ofUInt32 id).length ≤ message.length := by
  rw [Bytes.length_ofUInt32]
  exact Nat.le_trans (by decide) h

theorem Message.requestId_withRequestId {message : Bytes} (h : headerSize ≤ message.length)
    (id : UInt32) : requestId (withRequestId message id) = id := by
  have hPlace := Bytes.take_drop_patch (requestId_fits h id)
  rw [Bytes.length_ofUInt32] at hPlace
  rw [requestId, withRequestId, hPlace, Bytes.toUInt32_ofUInt32]

theorem Message.length_withRequestId {message : Bytes} (h : headerSize ≤ message.length)
    (id : UInt32) : (withRequestId message id).length = message.length :=
  Bytes.length_patch (requestId_fits h id)

theorem Operation.message_eq_ok {H : Type} {op : Operation H} {message : Bytes}
    (h : op.message = .ok message) :
    Message.headerSize ≤ message.length ∧ Message.requestId message = 0 := by
  have hAssemble : ∃ opcode body, message = Message.assemble opcode body := by
    cases op with
    | insert op =>
      obtain ⟨body, _, rfl⟩ := map_eq_ok_iff.mp h
      exact ⟨_, body, rfl⟩
    | query op =>
      obtain ⟨body, _, rfl⟩ := map_eq_ok_iff.mp h
      exact ⟨_, body, rfl⟩
  obtain ⟨opcode, body, rfl⟩ := hAssemble
  refine ⟨?_, ?_⟩
  · rw [Message.length_assemble]
    exact Nat.le_add_right _ _
  · unfold Message.requestId Message.assemble
    simp only [List.append_assoc]
    rw [Message.requestIdAt, List.drop_left' (Bytes.length_ofInt32 _),
      List.take_left' (Bytes.length_ofInt32 _)]
    exact Bytes.toUInt32_ofUInt32 0

namespace Connection

variable {P H : Type}

/-- From the correlator `c` on, the operations `ops` go out as `bytes`, and leave `c'`. -/
inductive Sends : Correlator H → List (Operation H) → Bytes → Correlator H → Prop
  | none {c : Correlator H} : Sends c [] [] c
  | plain {c c' : Correlator H} {op : Operation H} {ops : List (Operation H)}
      {message bytes : Bytes} (encoded : op.message = .ok message) (handler : op.handler = none)
      (requestId : Message.requestId message = 0) (rest : Sends c ops bytes c') :
      Sends c (op :: ops) (message ++ bytes) c'
  | asking {c c' : Correlator H} {op : Operation H} {ops : List (Operation H)}
      {message bytes : Bytes} {handler : H} {id : UInt32} (encoded : op.message = .ok message)
      (waits : op.handler = some handler) (nonzero : id ≠ 0) (fresh : id ∉ c.ids)
      (requestId : Message.requestId (Message.withRequestId message id) = id)
      (rest : Sends ⟨id, c.pending ++ [(id, handler)]⟩ ops bytes c') :
      Sends c (op :: ops) (Message.withRequestId message id ++ bytes) c'

/-- Gives ids to the waiting messages of a batch as `stamp` does, but only at places that are
inside of it. -/
def stamp? (correlator : Correlator H) (bytes : Bytes) :
    List (Nat × H) → Option (List UInt32 × Correlator H × Bytes)
  | [] => some ([], correlator, bytes)
  | (position, handler) :: rest => do
    let (id, correlator) := correlator.register handler
    let bytes ← bytes.setInt32? (position + Message.requestIdAt) id.toInt32
    let (ids, correlator, bytes) ← stamp? correlator bytes rest
    some (id :: ids, correlator, bytes)

theorem stamp_sends {c : Correlator H} {ops : List (Operation H)} {messages : List Bytes}
    (hMessages : List.Forall₂ (fun op message => op.message = .ok message) ops messages)
    (hAdmits : c.Admits (ops.filterMap Operation.handler)) (before : Bytes) :
    ∃ ids c' bytes, Sends c ops bytes c' ∧
      stamp c (before ++ messages.flatten) (Batch.awaitingFrom before.length ops messages) =
        (ids, c', before ++ bytes) ∧
      stamp? c (before ++ messages.flatten) (Batch.awaitingFrom before.length ops messages) =
        some (ids, c', before ++ bytes) := by
  induction hMessages generalizing c before with
  | nil => exact ⟨[], c, [], .none, rfl, rfl⟩
  | @cons op message ops messages hMessage _ ih =>
    obtain ⟨hSize, hZero⟩ := Operation.message_eq_ok hMessage
    rw [List.flatten_cons, Batch.awaitingFrom]
    cases hHandler : op.handler with
    | none =>
      rw [List.filterMap_cons, hHandler] at hAdmits
      obtain ⟨ids, c', bytes, hSends, hStamp, hStamp'⟩ := ih hAdmits (before ++ message)
      rw [List.append_assoc, List.append_assoc, List.length_append] at hStamp hStamp'
      exact ⟨ids, c', message ++ bytes, .plain hMessage hHandler hZero hSends, hStamp, hStamp'⟩
    | some handler =>
      rw [List.filterMap_cons, hHandler] at hAdmits
      obtain ⟨hFree, hRest⟩ := hAdmits
      obtain ⟨hNonzero, hFresh⟩ := Correlator.isFree_iff.mp (Correlator.isFree_nextId hFree)
      have hId : (c.register handler).1 = c.nextId := rfl
      have hField := Message.requestId_fits hSize c.nextId
      have hPatch := Bytes.patch_append before hField messages.flatten
      have hChecked : Bytes.setInt32? (before ++ (message ++ messages.flatten))
          (before.length + Message.requestIdAt) c.nextId.toInt32 =
            some (before ++ (Message.withRequestId message c.nextId ++ messages.flatten)) := by
        rw [Bytes.length_ofUInt32] at hField
        rw [Bytes.setInt32?_append before hField, Bytes.ofInt32, UInt32.toUInt32_toInt32]
        rfl
      obtain ⟨ids, c', bytes, hSends, hStamp, hStamp'⟩ :=
        ih hRest (before ++ Message.withRequestId message c.nextId)
      rw [List.length_append, Message.length_withRequestId hSize, List.append_assoc,
        List.append_assoc] at hStamp hStamp'
      refine ⟨c.nextId :: ids, c', Message.withRequestId message c.nextId ++ bytes, ?_, ?_, ?_⟩
      · exact .asking hMessage hHandler hNonzero hFresh
          (Message.requestId_withRequestId hSize _) hSends
      · rw [Option.map_some, Option.toList_some, List.singleton_append, stamp]
        dsimp only
        rw [hId, hPatch, ← Message.withRequestId, hStamp]
      · rw [Option.map_some, Option.toList_some, List.singleton_append, stamp?]
        dsimp only
        rw [hId, hChecked, Option.bind_eq_bind, Option.bind_some, hStamp']
        rfl

/-! ### Whole runs -/

def Entry.isQuery (entry : Entry P H) : Bool :=
  match entry.event with
  | .query _ => true
  | _ => false

/-- A query that sends `bytes`: its batch, laid out plainly, with ids at places inside of it, each
the one under which the handler of its message waits from then on. -/
structure Carries [PoolEntry P] (entry : Entry P H) (bytes : Bytes) : Prop where
  stamped : ∃ ops batch ids, entry.event = .query ops ∧ Batch.encode [] ops = .ok batch ∧
    stamp? entry.before.correlator batch.bytes batch.awaiting =
      some (ids, entry.reaction.connection.correlator, bytes) ∧
    Sends entry.before.correlator ops bytes entry.reaction.connection.correlator
  distinct : entry.reaction.connection.correlator.ids.Nodup

theorem carries_of_ok [PoolEntry P] {c : Connection P H} (hc : c.Coherent)
    {ops : List (Operation H)} (hReturns : c.Returns ops) (hOk : (c.query ops).result = .ok ()) :
    Carries ⟨c, .query ops⟩ (c.query ops).sent := by
  have hSound := (hc.query hReturns (queried_of_query rfl)).sound
  generalize hQuery : c.query ops = r at hOk hSound
  have hReaction : Entry.reaction (⟨c, .query ops⟩ : Entry P H) = r := hQuery
  cases queried_of_query hQuery with
  | refused _ => cases hOk
  | closed _ _ => cases hOk
  | torn _ _ _ _ _ _ => cases hOk
  | @sent batch outbound hEncode hOpen =>
    refine ⟨?_, hReaction ▸ hSound.distinct⟩
    obtain ⟨messages, hMessages, rfl⟩ := Batch.encode_eq_ok_iff.mp hEncode
    have hAdmits := hReturns _ hEncode hOpen
    rw [Batch.handlers_awaiting hEncode] at hAdmits
    obtain ⟨ids, c', bytes, hSends, hStamp, hStamp'⟩ :=
      stamp_sends (mapM_eq_ok_iff.mp hMessages) hAdmits []
    refine ⟨ops, _, ids, rfl, hEncode, ?_, ?_⟩
    · rw [hReaction, hStamp']
      dsimp only
      rw [hStamp]
    · rw [hReaction]
      dsimp only
      rw [hStamp]
      exact hSends

theorem sent_of_readStep {c : Connection P H} {r : Reaction P H Unit} (h : c.readStep = some r) :
    r.sent = [] := by
  cases reads_of_readStep h with
  | frame _ _ _ => rfl
  | abandoned _ _ _ => rfl
  | document _ _ _ => rfl
  | complete _ _ _ => rfl
  | stop inbound _ =>
    unfold stopReading
    dsimp only
    split <;> rfl

theorem sent_of_not_query [PoolEntry P] {entry : Entry P H} (h : entry.isQuery = false) :
    entry.reaction.sent = [] := by
  obtain ⟨c, event⟩ := entry
  generalize hReaction : Entry.reaction (⟨c, event⟩ : Entry P H) = r
  cases performed_of_perform hReaction with
  | query _ => cases h
  | close => rfl
  | drop => rfl
  | read hStep => exact sent_of_readStep hStep
  | quiet _ _ _ _ _ => rfl

/-- As long as queries succeed the server gets their batches one after the other, whatever else
happens between them and wherever the counter of the ids starts. -/
theorem Run.sent_is_batches [PoolEntry P] {address : String} {maxMessageSize : Nat} {pool : P}
    {lastId : UInt32} {log : List (Entry P H)} {c : Connection P H}
    (run : Run { opened address maxMessageSize pool with correlator := { lastId } } log c)
    (hOk : ∀ entry ∈ log, entry.isQuery = true → entry.reaction.result = .ok ()) :
    ∃ batches, List.Forall₂ Carries (log.filter Entry.isQuery) batches ∧
      sent log = batches.flatten := by
  have hStart : Coherent
      ({ opened address maxMessageSize pool with correlator := { lastId } } : Connection P H) :=
    ⟨.empty lastId, nofun, nofun, nofun⟩
  induction run with
  | refl => exact ⟨[], .nil, rfl⟩
  | @next log c run event hPossible ih =>
    obtain ⟨batches, hBatches, hSent⟩ :=
      ih fun entry hEntry => hOk entry (List.mem_append_left _ hEntry)
    rw [List.filter_append, sent_concat, hSent]
    cases hQuery : Entry.isQuery ⟨c, event⟩ with
    | false =>
      rw [List.filter_cons_of_neg (by rw [hQuery]; decide), sent_of_not_query hQuery]
      exact ⟨batches, by rwa [List.filter_nil, List.append_nil], by rw [List.append_nil]⟩
    | true =>
      rw [List.filter_cons_of_pos hQuery, List.filter_nil]
      refine ⟨batches ++ [(c.perform event).sent], ?_, ?_⟩
      · refine List.rel_append hBatches (.cons ?_ .nil)
        cases event with
        | query ops =>
          have hResult := hOk _ (List.mem_append_right _ List.mem_cons_self) hQuery
          exact carries_of_ok (run.coherent hStart) hPossible.2 hResult
        | _ => cases hQuery
      · rw [List.flatten_append, List.flatten_singleton]
        rfl

/-- A query whose id comes after the largest one. -/
theorem sent_of_a_query : ∃ (_ : PoolEntry Unit) (log : List (Entry Unit Nat))
    (c : Connection Unit Nat) (batches : List Bytes),
    Run { opened "db" 100 () with correlator := { lastId := 4294967295 } } log c ∧
      (∀ entry ∈ log, entry.isQuery = true → entry.reaction.result = .ok ()) ∧
      c.correlator.pending = [(1, 7)] ∧ sent log = batches.flatten ∧
      List.Forall₂ Carries (log.filter Entry.isQuery) batches := by
  let pools : PoolEntry Unit := ⟨fun _ => "pool"⟩
  let op : Query Nat := { collection := "a", query := .document [], handler := some 7 }
  let start : Connection Unit Nat :=
    { opened "db" 100 () with correlator := { lastId := 4294967295 } }
  have hReturns : start.Returns [.query op] := by
    intro batch hEncode _
    rw [Batch.handlers_awaiting hEncode]
    exact ⟨⟨1, rfl⟩, trivial⟩
  let log : List (Entry Unit Nat) := [⟨start, .query [.query op]⟩]
  have run : Run start log (start.perform (.query [.query op])).connection :=
    Run.refl.next (.query [.query op]) ⟨rfl, hReturns⟩
  have hOk : ∀ entry ∈ log, entry.isQuery = true → entry.reaction.result = .ok () := by
    intro entry hEntry _
    obtain rfl := List.mem_singleton.mp hEntry
    rfl
  obtain ⟨batches, hBatches, hSent⟩ := run.sent_is_batches hOk
  exact ⟨pools, log, _, batches, run, hOk, by decide, hSent, hBatches⟩

end Connection

end DocumentLink
