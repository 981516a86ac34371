import DocumentLink.Message.Operation
import DocumentLink.Proofs.Outcome

/-! How a batch is laid out: the messages of its operations stand one after the other behind what
was there before, and a message that wants a reply waits at the position where it starts.  The
first document that cannot be written decides the outcome, as it does when the messages are built
one by one. -/

namespace DocumentLink

namespace Operation

variable {H : Type}

/-- The documents of an operation in the order in which they are written. -/
def documents : Operation H → List Bson.Value
  | insert op => op.documents
  | query op => op.query :: op.selector.toList

theorem message_eq_error_iff {op : Operation H} {e : Bson.EncodeError} :
    op.message = .error e ↔ op.documents.mapM Bson.Value.marshal = .error e := by
  cases op with
  | insert op =>
    simp only [message, Insert.body, documents, map_eq_error_iff, bind_eq_error_iff, pure_ne_error,
      and_false, exists_false, or_false]
  | query op =>
    cases hSelector : op.selector with
    | none =>
      simp only [message, Query.body, documents, hSelector, Option.toList_none, List.mapM_cons,
        List.mapM_nil, map_eq_error_iff, bind_eq_error_iff, pure_ne_error, and_false, exists_false,
        or_false]
    | some selector =>
      simp only [message, Query.body, documents, hSelector, Option.toList_some, List.mapM_cons,
        List.mapM_nil, map_eq_error_iff, bind_eq_error_iff, pure_ne_error, and_false, exists_false,
        or_false]

end Operation

namespace Batch

variable {H : Type}

/-- Where the messages stand that want a reply, when the first of all messages starts at `start`;
each with its handler. -/
def awaitingFrom : Nat → List (Operation H) → List Bytes → List (Nat × H)
  | start, op :: ops, message :: messages =>
    (op.handler.map (start, ·)).toList ++ awaitingFrom (start + message.length) ops messages
  | _, _, _ => []

theorem handlers_awaitingFrom (start : Nat) {ops : List (Operation H)} {messages : List Bytes}
    (h : ops.length = messages.length) :
    (awaitingFrom start ops messages).map Prod.snd = ops.filterMap Operation.handler := by
  induction ops generalizing start messages with
  | nil => rfl
  | cons op ops ih =>
    obtain _ | ⟨message, messages⟩ := messages
    · cases h
    · rw [awaitingFrom, List.map_append, ih _ (by simpa using h), List.filterMap_cons]
      cases op.handler <;> rfl

theorem awaitingFrom_append {x : List (Operation H)} {first : List Bytes}
    (h : x.length = first.length) (start : Nat) (y : List (Operation H)) (second : List Bytes) :
    awaitingFrom start (x ++ y) (first ++ second) =
      awaitingFrom start x first ++ awaitingFrom (start + first.flatten.length) y second := by
  induction x generalizing start first with
  | nil =>
    rw [List.length_nil, eq_comm, List.length_eq_zero_iff] at h
    subst h
    rfl
  | cons op x ih =>
    obtain _ | ⟨message, first⟩ := first
    · cases h
    · rw [List.cons_append, List.cons_append, awaitingFrom, awaitingFrom, ih (by simpa using h),
        List.flatten_cons, List.length_append, List.append_assoc, Nat.add_assoc]

theorem foldlM_push (ops : List (Operation H)) (batch : Batch H) :
    ops.foldlM push batch = (ops.mapM Operation.message).map fun messages =>
      { bytes := batch.bytes ++ messages.flatten
        awaiting := batch.awaiting ++ awaitingFrom batch.bytes.length ops messages } := by
  induction ops generalizing batch with
  | nil => simp [awaitingFrom, pure, Except.pure, Except.map]
  | cons op ops ih =>
    rw [List.foldlM_cons, List.mapM_cons, push]
    cases op.message with
    | error e => rfl
    | ok message =>
      show (ops.foldlM push _) = _
      rw [ih]
      cases ops.mapM Operation.message with
      | error e => rfl
      | ok messages => simp [Except.map, awaitingFrom, bind, Except.bind, pure, Except.pure]

/-- A batch is its messages in order, behind what was there before. -/
theorem encode_eq (start : Bytes) (ops : List (Operation H)) :
    encode start ops = (ops.mapM Operation.message).map fun messages =>
      { bytes := start ++ messages.flatten
        awaiting := awaitingFrom start.length ops messages } :=
  foldlM_push ops ⟨start, []⟩

theorem encode_eq_ok_iff {start : Bytes} {ops : List (Operation H)} {batch : Batch H} :
    encode start ops = .ok batch ↔ ∃ messages, ops.mapM Operation.message = .ok messages ∧
      batch = ⟨start ++ messages.flatten, awaitingFrom start.length ops messages⟩ := by
  rw [encode_eq]
  cases ops.mapM Operation.message with
  | error e => simp [Except.map]
  | ok messages => simp [Except.map, eq_comm]

theorem handlers_awaiting {start : Bytes} {ops : List (Operation H)} {batch : Batch H}
    (h : encode start ops = .ok batch) :
    batch.awaiting.map Prod.snd = ops.filterMap Operation.handler := by
  obtain ⟨messages, hMessages, rfl⟩ := encode_eq_ok_iff.mp h
  exact handlers_awaitingFrom _ (mapM_eq_ok_iff.mp hMessages).length_eq

/-! ### The document that decides -/

theorem mapM_message_eq_error_iff {ops : List (Operation H)} {e : Bson.EncodeError} :
    ops.mapM Operation.message = .error e ↔
      (ops.flatMap Operation.documents).mapM Bson.Value.marshal = .error e := by
  induction ops with
  | nil => exact ⟨nofun, nofun⟩
  | cons op ops ih =>
    have hHere {e' : Bson.EncodeError} := op.message_eq_error_iff (e := e')
    have hWritten : (∃ message, op.message = .ok message) ↔
        ∃ documents, op.documents.mapM Bson.Value.marshal = .ok documents := by
      cases hMessage : op.message with
      | error e' => simp [hHere.mp hMessage]
      | ok message =>
        cases hDocuments : op.documents.mapM Bson.Value.marshal with
        | error e' => simp [hHere.mpr hDocuments] at hMessage
        | ok documents => simp
    simp only [List.flatMap_cons, List.mapM_cons, List.mapM_append, bind_eq_error_iff, hHere, ih,
      pure_ne_error, and_false, exists_false, or_false, exists_and_right, hWritten]

theorem encode_eq_error_iff {start : Bytes} {ops : List (Operation H)} {e : Bson.EncodeError} :
    encode start ops = .error e ↔
      (ops.flatMap Operation.documents).mapM Bson.Value.marshal = .error e := by
  rw [encode_eq, map_eq_error_iff, mapM_message_eq_error_iff]

end Batch

end DocumentLink
