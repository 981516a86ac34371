import DocumentLink.Message.Assembly
import DocumentLink.Proofs.Bytes
import DocumentLink.Proofs.Message.Layout

/-! What laying a batch out in place leaves in the buffer.  Only the end of the buffer is written
to: the place of a length lies in the message that has just been added.  So the bytes that were
there before play no part, and batches can be laid out one after the other or all at once. -/

namespace DocumentLink

/-! ### Messages as one piece -/

namespace Operation

variable {H : Type}

def opcode : Operation H → Int32
  | insert _ => Message.insertOpcode
  | query _ => Message.queryOpcode

/-- What stands between the header and the documents of a message. -/
def fields : Operation H → Bytes
  | insert op => Bytes.ofInt32 0 ++ Field.terminated op.collection
  | query op =>
    Bytes.ofUInt32 op.flags ++ Field.terminated op.collection ++ Bytes.ofInt32 op.skip ++
      Bytes.ofInt32 op.limit

theorem message_eq_assemble (op : Operation H) :
    op.message = (op.documents.mapM Bson.Value.marshal).map fun documents =>
      Message.assemble op.opcode (op.fields ++ documents.flatten) := by
  cases op with
  | insert op =>
    unfold message Insert.body documents
    dsimp only
    cases op.documents.mapM Bson.Value.marshal <;> rfl
  | query op =>
    obtain ⟨collection, query, selector, skip, limit, flags, handler⟩ := op
    unfold message Query.body documents
    dsimp only
    rw [List.mapM_cons]
    cases query.marshal with
    | error e => rfl
    | ok query =>
      cases selector with
      | none =>
        show Except.ok _ = Except.ok _
        simp [fields, opcode]
      | some selector =>
        rw [Option.toList_some, List.mapM_cons, List.mapM_nil]
        dsimp only
        cases selector.marshal with
        | error e => rfl
        | ok selector =>
          show Except.ok _ = Except.ok _
          simp [fields, opcode]

end Operation

/-! ### One message at the end of a buffer -/

namespace Buffer

theorem addDocuments_of_ok {documents : List Bson.Value} {written : List Bytes}
    (h : documents.mapM Bson.Value.marshal = .ok written) (b : Bytes) :
    addDocuments b documents = (b ++ written.flatten, .ok ()) := by
  induction mapM_eq_ok_iff.mp h generalizing b with
  | nil => rw [addDocuments, List.flatten_nil, List.append_nil]
  | @cons v data documents written hHere hRest ih =>
    have hAdded : addDocument b v = .ok (b ++ data) := by rw [addDocument, hHere]; rfl
    rw [addDocuments, hAdded]
    dsimp only
    rw [ih (mapM_eq_ok_iff.mpr hRest), List.flatten_cons, List.append_assoc]

theorem addDocuments_of_error {documents : List Bson.Value} {e : Bson.EncodeError}
    (h : documents.mapM Bson.Value.marshal = .error e) (b : Bytes) :
    ∃ added, addDocuments b documents = (b ++ added, .error e) := by
  obtain ⟨before, v, after, rfl, hBefore, hFails⟩ := mapM_eq_error_iff.mp h
  clear h
  induction before generalizing b with
  | nil =>
    have hRefused : addDocument b v = .error e := by rw [addDocument, hFails]; rfl
    refine ⟨[], ?_⟩
    rw [List.nil_append, addDocuments, hRefused, List.append_nil]
  | cons w before ih =>
    obtain ⟨⟨data, hHere⟩, hOthers⟩ := List.forall_mem_cons.mp hBefore
    have hAdded : addDocument b w = .ok (b ++ data) := by rw [addDocument, hHere]; rfl
    obtain ⟨added, hRest⟩ := ih (b ++ data) hOthers
    refine ⟨data ++ added, ?_⟩
    rw [List.cons_append, addDocuments, hAdded]
    dsimp only
    rw [hRest, List.append_assoc]

variable {H : Type}

theorem addMessage_eq (b : Bytes) (op : Operation H) :
    addMessage b op =
      addDocuments (b ++ (Message.blankHeader op.opcode ++ op.fields)) op.documents := by
  cases op with
  | insert op =>
    simp only [addMessage, addHeader, addInt32, addTerminated, Operation.opcode, Operation.fields,
      Operation.documents, List.append_assoc]
  | query op =>
    simp only [addMessage, addHeader, addInt32, addTerminated, Operation.opcode, Operation.fields,
      Operation.documents, List.append_assoc, Bytes.ofInt32, UInt32.toUInt32_toInt32]

/-- The place of a length lies inside of the message that has been added last. -/
theorem setInt32?_blankHeader (b : Bytes) (opcode : Int32) (body : Bytes) :
    (b ++ (Message.blankHeader opcode ++ body)).setInt32? (b.length + Message.lengthAt)
        (Int32.ofNat (Message.headerSize + body.length)) =
      some (b ++ Message.assemble opcode body) := by
  have hFits : Message.lengthAt + 4 ≤ (Message.blankHeader opcode).length := by
    rw [Message.length_blankHeader]
    decide
  rw [Bytes.setInt32?_append b hFits]
  simp [Message.lengthAt, Bytes.patch, Message.blankHeader, Message.assemble]

/-- A message that can be built stands behind what was there before once its length is set. -/
theorem addMessage_of_ok {op : Operation H} {message : Bytes} (h : op.message = .ok message)
    (b : Bytes) : ∃ grown, addMessage b op = (grown, .ok ()) ∧
      grown.setInt32? (b.length + Message.lengthAt) (Int32.ofNat (grown.length - b.length)) =
        some (b ++ message) := by
  rw [Operation.message_eq_assemble] at h
  obtain ⟨documents, hDocuments, rfl⟩ := map_eq_ok_iff.mp h
  refine ⟨_, (addMessage_eq b op).trans (addDocuments_of_ok hDocuments _), ?_⟩
  have hLength : (b ++ (Message.blankHeader op.opcode ++ op.fields) ++ documents.flatten).length -
      b.length = Message.headerSize + (op.fields ++ documents.flatten).length := by
    simp only [List.length_append, Message.length_blankHeader]
    omega
  rw [hLength, List.append_assoc, List.append_assoc]
  exact setInt32?_blankHeader b op.opcode _

theorem addMessage_of_error {op : Operation H} {e : Bson.EncodeError} (h : op.message = .error e)
    (b : Bytes) : ∃ added, addMessage b op = (b ++ added, .error e) := by
  obtain ⟨added, hAdded⟩ := addDocuments_of_error (Operation.message_eq_error_iff.mp h)
    (b ++ (Message.blankHeader op.opcode ++ op.fields))
  refine ⟨Message.blankHeader op.opcode ++ op.fields ++ added, ?_⟩
  rw [addMessage_eq, hAdded, List.append_assoc b]

/-! ### Batches -/

theorem layOut?_of_ok {ops : List (Operation H)} {messages : List Bytes}
    (h : ops.mapM Operation.message = .ok messages) (b : Bytes) (awaiting : List (Nat × H)) :
    layOut? b awaiting ops = some (b ++ messages.flatten,
      .ok (awaiting ++ Batch.awaitingFrom b.length ops messages)) := by
  induction mapM_eq_ok_iff.mp h generalizing b awaiting with
  | nil => simp [layOut?, Batch.awaitingFrom]
  | @cons op message ops messages hHere hRest ih =>
    obtain ⟨grown, hAdded, hSet⟩ := addMessage_of_ok hHere b
    rw [layOut?, hAdded]
    dsimp only
    rw [hSet, Option.bind_eq_bind, Option.bind_some, ih (mapM_eq_ok_iff.mpr hRest),
      List.flatten_cons, Batch.awaitingFrom, List.length_append, List.append_assoc,
      List.append_assoc]

theorem layOut?_of_error {ops : List (Operation H)} {e : Bson.EncodeError}
    (h : ops.mapM Operation.message = .error e) (b : Bytes) (awaiting : List (Nat × H)) :
    ∃ added, layOut? b awaiting ops = some (b ++ added, .error e) := by
  obtain ⟨before, op, after, rfl, hBefore, hFails⟩ := mapM_eq_error_iff.mp h
  clear h
  induction before generalizing b awaiting with
  | nil =>
    obtain ⟨added, hAdded⟩ := addMessage_of_error hFails b
    refine ⟨added, ?_⟩
    rw [List.nil_append, layOut?, hAdded]
  | cons first before ih =>
    obtain ⟨⟨message, hHere⟩, hOthers⟩ := List.forall_mem_cons.mp hBefore
    obtain ⟨grown, hAdded, hSet⟩ := addMessage_of_ok hHere b
    obtain ⟨added, hRest⟩ := ih (b ++ message)
      (awaiting ++ (first.handler.map (b.length, ·)).toList) hOthers
    refine ⟨message ++ added, ?_⟩
    rw [List.cons_append, layOut?, hAdded]
    dsimp only
    rw [hSet, Option.bind_eq_bind, Option.bind_some, hRest, List.append_assoc]

/-- What was in the buffer stays in front of it, and what is added is what the batch says. -/
theorem layOut?_eq (b : Bytes) (ops : List (Operation H)) :
    ∃ added, layOut? b [] ops = some (b ++ added, (Batch.encode b ops).map Batch.awaiting) ∧
      ∀ batch, Batch.encode b ops = .ok batch → batch.bytes = b ++ added := by
  rw [Batch.encode_eq]
  cases hMessages : ops.mapM Operation.message with
  | error e =>
    obtain ⟨added, hLaidOut⟩ := layOut?_of_error hMessages b []
    exact ⟨added, hLaidOut, nofun⟩
  | ok messages =>
    refine ⟨messages.flatten, layOut?_of_ok hMessages b [], ?_⟩
    intro batch hBatch
    cases hBatch
    rfl

end Buffer

/-! ### What stands where -/

namespace Operation

variable {H : Type}

/-- The query that an operation waits for, if it does. -/
def asking? : Operation H → Option (Query H)
  | insert _ => none
  | query op => if op.handler.isSome then some op else none

theorem asking?_of_handler_none {op : Operation H} (h : op.handler = none) : op.asking? = none := by
  cases op with
  | insert op => rfl
  | query op => rw [asking?, show op.handler = none from h]; rfl

theorem asking?_of_handler {op : Operation H} {handler : H} (h : op.handler = some handler) :
    ∃ q, op = .query q ∧ q.handler = some handler ∧ op.asking? = some q := by
  cases op with
  | insert op => cases h
  | query op =>
    refine ⟨op, rfl, h, ?_⟩
    rw [asking?, show op.handler = some handler from h]
    rfl

end Operation

namespace Batch

variable {H : Type}

/-- A whole message of query `op` stands in a buffer at the position of `entry`, whose handler is
the one of `op`. -/
structure Placed (b : Bytes) (op : Query H) (entry : Nat × H) : Prop where
  handler : op.handler = some entry.2
  header : entry.1 + Message.headerSize ≤ b.length
  message : ∃ body, op.body = .ok body ∧
    Message.assemble Message.queryOpcode body <+: b.drop entry.1

theorem placed_awaitingFrom {ops : List (Operation H)} {messages : List Bytes}
    (h : List.Forall₂ (fun op message => op.message = .ok message) ops messages) (before : Bytes) :
    List.Forall₂ (Placed (before ++ messages.flatten)) (ops.filterMap Operation.asking?)
      (awaitingFrom before.length ops messages) := by
  induction h generalizing before with
  | nil => exact .nil
  | @cons op message ops messages hHere hRest ih =>
    have hLater := ih (before ++ message)
    rw [List.length_append, List.append_assoc] at hLater
    rw [List.flatten_cons, awaitingFrom, List.filterMap_cons]
    cases hHandler : op.handler with
    | none =>
      rw [Operation.asking?_of_handler_none hHandler]
      exact hLater
    | some handler =>
      obtain ⟨q, rfl, hOwn, hAsking⟩ := Operation.asking?_of_handler hHandler
      rw [hAsking]
      refine .cons ⟨hOwn, ?_, ?_⟩ hLater
      all_goals obtain ⟨body, hBody, rfl⟩ := map_eq_ok_iff.mp hHere
      · simp only [List.length_append, Message.length_assemble]
        omega
      · refine ⟨body, hBody, ?_⟩
        rw [List.drop_left]
        exact List.prefix_append _ _

/-- The positions of waiting messages grow, since every message is at least as long as a header. -/
theorem awaitingFrom_increasing {ops : List (Operation H)} {messages : List Bytes}
    (h : List.Forall₂ (fun op message => op.message = .ok message) ops messages) (start : Nat) :
    (∀ position ∈ (awaitingFrom start ops messages).map Prod.fst, start ≤ position) ∧
      ((awaitingFrom start ops messages).map Prod.fst).Pairwise (· < ·) := by
  induction h generalizing start with
  | nil => exact ⟨nofun, .nil⟩
  | @cons op message ops messages hHere hRest ih =>
    obtain ⟨hLater, hIncreasing⟩ := ih (start + message.length)
    have hNonempty : 0 < message.length := by
      rw [op.message_eq_assemble] at hHere
      obtain ⟨documents, _, rfl⟩ := map_eq_ok_iff.mp hHere
      rw [Message.length_assemble]
      exact Nat.add_pos_left (by decide) _
    have hBehind : ∀ position ∈ (awaitingFrom (start + message.length) ops messages).map Prod.fst,
        start < position := by
      intro position hMem
      have := hLater position hMem
      omega
    rw [awaitingFrom, List.map_append]
    cases op.handler with
    | none => exact ⟨fun position hMem => Nat.le_of_lt (hBehind position hMem), hIncreasing⟩
    | some handler =>
      refine ⟨?_, List.pairwise_cons.mpr ⟨hBehind, hIncreasing⟩⟩
      refine List.forall_mem_cons.mpr ⟨Nat.le_refl start, fun position hMem => ?_⟩
      exact Nat.le_of_lt (hBehind position hMem)

/-! ### Two batches -/

/-- Waiting messages behind `n` more bytes. -/
def shift (n : Nat) (awaiting : List (Nat × H)) : List (Nat × H) :=
  awaiting.map fun (position, handler) => (n + position, handler)

theorem shift_awaitingFrom (n start : Nat) (ops : List (Operation H)) (messages : List Bytes) :
    shift n (awaitingFrom start ops messages) = awaitingFrom (n + start) ops messages := by
  induction ops generalizing start messages with
  | nil => rfl
  | cons op ops ih =>
    cases messages with
    | nil => rfl
    | cons message messages =>
      have hLater := ih (start + message.length) messages
      rw [awaitingFrom, awaitingFrom, Nat.add_assoc, ← hLater, shift, List.map_append]
      cases op.handler <;> rfl

theorem encode_append_of_ok {x y : List (Operation H)} {first second : Batch H}
    (hFirst : encode [] x = .ok first) (hSecond : encode [] y = .ok second) (b : Bytes) :
    encode b (x ++ y) = .ok {
      bytes := b ++ first.bytes ++ second.bytes
      awaiting := shift b.length first.awaiting ++
        shift (b.length + first.bytes.length) second.awaiting } := by
  obtain ⟨messages, hMessages, rfl⟩ := encode_eq_ok_iff.mp hFirst
  obtain ⟨messages', hMessages', rfl⟩ := encode_eq_ok_iff.mp hSecond
  have hLength := (mapM_eq_ok_iff.mp hMessages).length_eq
  refine encode_eq_ok_iff.mpr ⟨messages ++ messages', ?_, ?_⟩
  · rw [List.mapM_append, hMessages, hMessages']
    rfl
  · rw [shift_awaitingFrom, shift_awaitingFrom, awaitingFrom_append hLength]
    simp

theorem encode_isOk_append_iff (b : Bytes) (x y : List (Operation H)) :
    (∃ batch, encode b (x ++ y) = .ok batch) ↔
      (∃ first, encode [] x = .ok first) ∧ ∃ second, encode [] y = .ok second := by
  constructor
  · rintro ⟨batch, hBatch⟩
    obtain ⟨messages, hMessages, _⟩ := encode_eq_ok_iff.mp hBatch
    rw [List.mapM_append, bind_eq_ok_iff] at hMessages
    obtain ⟨first, hFirst, hMessages⟩ := hMessages
    obtain ⟨second, hSecond, _⟩ := bind_eq_ok_iff.mp hMessages
    exact ⟨⟨_, encode_eq_ok_iff.mpr ⟨first, hFirst, rfl⟩⟩,
      _, encode_eq_ok_iff.mpr ⟨second, hSecond, rfl⟩⟩
  · rintro ⟨⟨first, hFirst⟩, second, hSecond⟩
    exact ⟨_, encode_append_of_ok hFirst hSecond b⟩

/-- Laying a batch out in place changes nothing that was in the buffer and sets no length outside of
it; two batches laid out together stand as each of them would in a buffer of its own, moved behind
what comes before; and every message that waits for a reply is found, whole, where it is said to
be. -/
theorem encode_append (b : Bytes) (x y : List (Operation H)) :
    (∀ ops : List (Operation H), ∃ added,
      Buffer.layOut? b [] ops = some (b ++ added, (encode b ops).map Batch.awaiting) ∧
        ∀ batch, encode b ops = .ok batch → batch.bytes = b ++ added) ∧
    ((∃ batch, encode b (x ++ y) = .ok batch) ↔
      (∃ first, encode [] x = .ok first) ∧ ∃ second, encode [] y = .ok second) ∧
    (∀ first second, encode [] x = .ok first → encode [] y = .ok second →
      encode b (x ++ y) = .ok {
        bytes := b ++ first.bytes ++ second.bytes
        awaiting := shift b.length first.awaiting ++
          shift (b.length + first.bytes.length) second.awaiting }) ∧
    ∀ batch, encode b (x ++ y) = .ok batch →
      List.Forall₂ (Placed batch.bytes) ((x ++ y).filterMap Operation.asking?) batch.awaiting ∧
        (batch.awaiting.map Prod.fst).Pairwise (· < ·) := by
  refine ⟨Buffer.layOut?_eq b, encode_isOk_append_iff b x y, ?_, ?_⟩
  · exact fun first second hFirst hSecond => encode_append_of_ok hFirst hSecond b
  · intro batch hBatch
    obtain ⟨messages, hMessages, rfl⟩ := encode_eq_ok_iff.mp hBatch
    have hEach := mapM_eq_ok_iff.mp hMessages
    exact ⟨placed_awaitingFrom hEach b, (awaitingFrom_increasing hEach b.length).2⟩

end Batch

end DocumentLink
