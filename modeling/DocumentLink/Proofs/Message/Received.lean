import DocumentLink.Proofs.Bson.Writing
import DocumentLink.Proofs.Message.Layout

/-! What a receiver makes of a batch.  It knows nothing of operations: it cuts the bytes into
messages by their lengths and each message into fields, and takes what is left of a message for
documents.  That gives the operations back exactly if no collection has a zero byte in its name and
no message is too large for its length. -/

namespace DocumentLink

/-- An operation as its receiver sees it. -/
inductive Received where
  | insert (collection : String) (documents : List Bytes)
  | query (flags : UInt32) (collection : String) (skip limit : Int32) (filter : Bytes)
      (selector : Option Bytes)
  deriving DecidableEq

/-- An operation and the ids of the message that carries it. -/
structure Delivery where
  requestId : Int32
  responseTo : Int32
  content : Received
  deriving DecidableEq

/-! ### Reading -/

def documents? (b : Bytes) : Option (List Bytes) :=
  match cutBy 5 (by decide) b with
  | (documents, []) => some documents
  | _ => none

namespace Received

/-- A reserved zero, the collection and the documents. -/
def insert? (b : Bytes) : Option Received := do
  let (reserved, b) ← Field.length? b
  let (collection, b) ← Field.terminated? b
  let documents ← documents? b
  if reserved = 0 then some (.insert collection documents) else none

/-- Flags, the collection, two numbers and one or two documents. -/
def query? (b : Bytes) : Option Received := do
  let (flags, b) ← Field.split? 4 b
  let (collection, b) ← Field.terminated? b
  let (skip, b) ← Field.length? b
  let (limit, b) ← Field.length? b
  let documents ← documents? b
  match documents with
  | [filter] => some (.query (Bytes.toUInt32 flags) collection skip limit filter none)
  | [filter, selector] =>
    some (.query (Bytes.toUInt32 flags) collection skip limit filter (some selector))
  | _ => none

/-- What follows the header of a message with the given opcode. -/
def read? (opcode : Int32) (b : Bytes) : Option Received :=
  if opcode = Message.insertOpcode then insert? b
  else if opcode = Message.queryOpcode then query? b
  else none

end Received

/-- A message; its length has been used to cut it off. -/
def Delivery.read? (message : Bytes) : Option Delivery := do
  let (_, b) ← Field.length? message
  let (requestId, b) ← Field.length? b
  let (responseTo, b) ← Field.length? b
  let (opcode, b) ← Field.length? b
  let content ← Received.read? opcode b
  some ⟨requestId, responseTo, content⟩

/-- The messages of a byte string, each read on its own, and what is left over. -/
def receive (b : Bytes) : List (Option Delivery) × Bytes :=
  let (messages, rest) := Message.cut b
  (messages.map Delivery.read?, rest)

/-! ### Writing -/

namespace Received

def collection : Received → String
  | insert collection _ => collection
  | query _ collection _ _ _ _ => collection

def documents : Received → List Bytes
  | insert _ documents => documents
  | query _ _ _ _ filter selector => filter :: selector.toList

def opcode : Received → Int32
  | insert _ _ => Message.insertOpcode
  | query .. => Message.queryOpcode

def body : Received → Bytes
  | insert collection documents =>
    Bytes.ofInt32 0 ++ Field.terminated collection ++ documents.flatten
  | query flags collection skip limit filter selector =>
    Bytes.ofUInt32 flags ++ Field.terminated collection ++ Bytes.ofInt32 skip ++
      Bytes.ofInt32 limit ++ (filter :: selector.toList).flatten

def message (r : Received) : Bytes := Message.assemble r.opcode r.body

/-- The end of every field can be found. -/
structure Readable (r : Received) : Prop where
  collection : 0 ∉ Field.utf8 r.collection
  documents : ∀ data ∈ r.documents, SelfDelimiting 5 data

end Received

/-- What an operation asks for, with its documents as bytes. -/
def Operation.received {H : Type} : Operation H → Except Bson.EncodeError Received
  | insert op => do
    let documents ← op.documents.mapM Bson.Value.marshal
    pure (.insert op.collection documents)
  | query op => do
    let query ← op.query.marshal
    let selector ← match op.selector with
      | none => pure none
      | some selector => selector.marshal.map some
    pure (.query op.flags op.collection op.skip op.limit query selector)

def Operation.collection {H : Type} : Operation H → String
  | insert op => op.collection
  | query op => op.collection

/-! ### Reading is the inverse of writing -/

theorem documents?_eq_some_iff {b : Bytes} {documents : List Bytes} :
    documents? b = some documents ↔
      (∀ data ∈ documents, SelfDelimiting 5 data) ∧ b = documents.flatten := by
  rw [← @cutBy_eq_iff 5 (by decide)]
  unfold documents?
  constructor
  · intro h
    split at h
    next hCut =>
      cases h
      exact hCut
    next => cases h
  · intro h
    rw [h]

namespace Received

theorem insert?_eq_some_iff {b : Bytes} {r : Received} :
    insert? b = some r ↔ ∃ collection documents, r = .insert collection documents ∧
      b = r.body ∧ r.Readable := by
  unfold insert?
  simp only [Option.bind_eq_bind, Option.bind_eq_some_iff, Prod.exists, Field.length?_eq_some_iff,
    Field.terminated?_eq_some_iff, documents?_eq_some_iff]
  constructor
  · rintro ⟨reserved, _, rfl, collection, _, ⟨hCollection, rfl⟩, documents, ⟨hDocuments, rfl⟩, h⟩
    split at h
    next hZero =>
      cases h
      refine ⟨collection, documents, rfl, ?_, hCollection, hDocuments⟩
      rw [hZero, body, List.append_assoc]
    next => cases h
  · rintro ⟨collection, documents, rfl, rfl, hCollection, hDocuments⟩
    refine ⟨0, _, ?_, collection, _, ⟨hCollection, rfl⟩, documents, ⟨hDocuments, rfl⟩, rfl⟩
    rw [body, List.append_assoc]

theorem query?_eq_some_iff {b : Bytes} {r : Received} :
    query? b = some r ↔ ∃ flags collection skip limit filter selector,
      r = .query flags collection skip limit filter selector ∧ b = r.body ∧ r.Readable := by
  unfold query?
  simp only [Option.bind_eq_bind, Option.bind_eq_some_iff, Prod.exists, Field.length?_eq_some_iff,
    Field.split?_eq_some_iff, Field.terminated?_eq_some_iff, documents?_eq_some_iff]
  constructor
  · rintro ⟨flags, _, ⟨hFlags, rfl⟩, collection, _, ⟨hCollection, rfl⟩, skip, _, rfl, limit, _, rfl,
      documents, ⟨hDocuments, rfl⟩, h⟩
    split at h
    next filter =>
      cases h
      refine ⟨_, collection, skip, limit, filter, none, rfl, ?_, hCollection, hDocuments⟩
      rw [body, Bytes.ofUInt32_toUInt32 hFlags]
      simp only [List.append_assoc, Option.toList_none]
    next filter selector =>
      cases h
      refine ⟨_, collection, skip, limit, filter, some selector, rfl, ?_, hCollection, hDocuments⟩
      rw [body, Bytes.ofUInt32_toUInt32 hFlags]
      simp only [List.append_assoc, Option.toList_some]
    next => cases h
  · rintro ⟨flags, collection, skip, limit, filter, selector, rfl, rfl, hCollection, hDocuments⟩
    refine ⟨Bytes.ofUInt32 flags, _, ⟨Bytes.length_ofUInt32 flags, ?_⟩, collection, _,
      ⟨hCollection, rfl⟩, skip, _, rfl, limit, _, rfl, filter :: selector.toList,
      ⟨hDocuments, rfl⟩, ?_⟩
    · simp only [body, List.append_assoc]
    · rw [Bytes.toUInt32_ofUInt32]
      cases selector <;> rfl

theorem read?_eq_some_iff {opcode : Int32} {b : Bytes} {r : Received} :
    read? opcode b = some r ↔ opcode = r.opcode ∧ b = r.body ∧ r.Readable := by
  have hDistinct : Message.queryOpcode ≠ Message.insertOpcode := by decide
  unfold read?
  constructor
  · intro h
    split at h
    next hInsert =>
      obtain ⟨_, _, rfl, hBody⟩ := insert?_eq_some_iff.mp h
      exact ⟨hInsert, hBody⟩
    next =>
      split at h
      next hQuery =>
        obtain ⟨_, _, _, _, _, _, rfl, hBody⟩ := query?_eq_some_iff.mp h
        exact ⟨hQuery, hBody⟩
      next => cases h
  · rintro ⟨rfl, hBody⟩
    cases r with
    | insert collection documents =>
      rw [opcode, if_pos rfl, insert?_eq_some_iff]
      exact ⟨collection, documents, rfl, hBody⟩
    | query flags collection skip limit filter selector =>
      rw [opcode, if_neg hDistinct, if_pos rfl, query?_eq_some_iff]
      exact ⟨flags, collection, skip, limit, filter, selector, rfl, hBody⟩

end Received

theorem Delivery.read?_eq_some_iff {message : Bytes} {d : Delivery} :
    read? message = some d ↔ d.content.Readable ∧ ∃ length,
      message = Bytes.ofInt32 length ++ (Bytes.ofInt32 d.requestId ++
        (Bytes.ofInt32 d.responseTo ++ (Bytes.ofInt32 d.content.opcode ++ d.content.body))) := by
  unfold read?
  simp only [Option.bind_eq_bind, Option.bind_eq_some_iff, Prod.exists, Field.length?_eq_some_iff,
    Received.read?_eq_some_iff]
  constructor
  · rintro ⟨length, _, rfl, requestId, _, rfl, responseTo, _, rfl, _, _, rfl, content,
      ⟨rfl, rfl, hReadable⟩, h⟩
    cases h
    exact ⟨hReadable, length, rfl⟩
  · rintro ⟨hReadable, length, rfl⟩
    exact ⟨length, _, rfl, d.requestId, _, rfl, d.responseTo, _, rfl, _, _, rfl, d.content,
      ⟨rfl, rfl, hReadable⟩, rfl⟩

/-! ### Messages of operations -/

variable {H : Type}

theorem Operation.message_eq (op : Operation H) :
    op.message = op.received.map Received.message := by
  cases op with
  | insert op =>
    unfold message received Insert.body
    dsimp only
    cases op.documents.mapM Bson.Value.marshal <;> rfl
  | query op =>
    unfold message received Query.body
    dsimp only
    cases op.query.marshal with
    | error e => rfl
    | ok filter =>
      have hBody (selector : Option Bytes) :
          Bytes.ofUInt32 op.flags ++ Field.terminated op.collection ++ Bytes.ofInt32 op.skip ++
            Bytes.ofInt32 op.limit ++ filter ++ selector.getD [] =
          (Received.query op.flags op.collection op.skip op.limit filter selector).body := by
        cases selector <;> simp [Received.body]
      cases op.selector with
      | none => exact congrArg (fun b => Except.ok (Message.assemble _ b)) (hBody none)
      | some selector =>
        cases hSelector : selector.marshal with
        | error e =>
          dsimp only
          rw [hSelector]
          rfl
        | ok b =>
          dsimp only
          rw [hSelector]
          exact congrArg (fun b => Except.ok (Message.assemble _ b)) (hBody (some b))

theorem Operation.received_eq_ok {op : Operation H} {r : Received} (h : op.received = .ok r) :
    r.collection = op.collection ∧
      ∀ data ∈ r.documents, ∃ v : Bson.Value, v.marshal = .ok data := by
  cases op with
  | insert op =>
    obtain ⟨documents, hDocuments, ⟨⟩⟩ := bind_eq_ok_iff.mp h
    refine ⟨rfl, ?_⟩
    intro data hData
    obtain ⟨v, _, hv⟩ := exists_of_mem_mapM hDocuments hData
    exact ⟨v, hv⟩
  | query op =>
    obtain ⟨filter, hFilter, h⟩ := bind_eq_ok_iff.mp h
    have hHead : ∃ v : Bson.Value, v.marshal = .ok filter := ⟨op.query, hFilter⟩
    dsimp only at h
    split at h
    next =>
      obtain ⟨_, ⟨⟩, ⟨⟩⟩ := bind_eq_ok_iff.mp h
      refine ⟨rfl, ?_⟩
      intro data hData
      obtain rfl := List.mem_singleton.mp hData
      exact hHead
    next v _ =>
      obtain ⟨_, hSelector, ⟨⟩⟩ := bind_eq_ok_iff.mp h
      obtain ⟨b, hb, rfl⟩ := map_eq_ok_iff.mp hSelector
      refine ⟨rfl, ?_⟩
      intro data hData
      rcases List.mem_cons.mp hData with rfl | hMem
      · exact hHead
      · obtain rfl := List.mem_singleton.mp hMem
        exact ⟨v, hb⟩

theorem mapM_message (ops : List (Operation H)) :
    ops.mapM Operation.message =
      (ops.mapM Operation.received).map (List.map Received.message) := by
  induction ops with
  | nil => rfl
  | cons op ops ih =>
    rw [List.mapM_cons, List.mapM_cons, ih, op.message_eq]
    cases op.received with
    | error e => rfl
    | ok r => cases ops.mapM Operation.received <;> rfl

theorem collections_of_received {ops : List (Operation H)} {views : List Received}
    (h : ops.mapM Operation.received = .ok views) :
    views.map Received.collection = ops.map Operation.collection := by
  induction mapM_eq_ok_iff.mp h with
  | nil => rfl
  | cons hView hRest ih =>
    rw [List.map_cons, List.map_cons, (Operation.received_eq_ok hView).1,
      ih (mapM_eq_ok_iff.mpr hRest)]

/-! ### The round trip -/

/-- Messages are cut off like any other bytes that begin with their own number. -/
theorem cut_eq_cutBy (b : Bytes) :
    Message.cut b = cutBy Message.headerSize (by decide) b := by
  induction b using Message.cut.induct with
  | case1 b hNone => rw [Message.cut, hNone, cutBy, ← Message.lengthAt, hNone]
  | case2 b n hSome hOut =>
    rw [Message.cut, hSome, cutBy, ← Message.lengthAt, hSome]
    dsimp only
    rw [if_pos hOut, if_pos hOut]
  | case3 b n hSome hIn more rest hCut ih =>
    rw [Message.cut, hSome, cutBy, ← Message.lengthAt, hSome]
    dsimp only
    rw [if_neg hIn, if_neg hIn, ih]

theorem Received.length_message (r : Received) :
    r.message.length = Message.headerSize + r.body.length := Message.length_assemble _ _

theorem Received.length_le_body {r : Received} {data : Bytes} (h : data ∈ r.documents) :
    data.length ≤ r.body.length := by
  have hFlat : data.length ≤ r.documents.flatten.length :=
    (List.sublist_flatten_of_mem h).length_le
  cases r with
  | insert collection documents =>
    rw [body, List.length_append]
    exact Nat.le_add_left_of_le hFlat
  | query flags collection skip limit filter selector =>
    rw [body, List.length_append]
    exact Nat.le_add_left_of_le hFlat

/-- The message that is read as `d`. -/
def Delivery.message (d : Delivery) : Bytes :=
  Bytes.ofInt32 (Int32.ofNat (Message.headerSize + d.content.body.length)) ++
    (Bytes.ofInt32 d.requestId ++ (Bytes.ofInt32 d.responseTo ++
      (Bytes.ofInt32 d.content.opcode ++ d.content.body)))

/-- The message of an operation has no ids. -/
theorem Received.message_eq (r : Received) : r.message = Delivery.message ⟨0, 0, r⟩ := by
  simp only [message, Message.assemble, Delivery.message, List.append_assoc]

theorem Delivery.length_message (d : Delivery) :
    d.message.length = Message.headerSize + d.content.body.length := by
  simp only [message, List.length_append, Bytes.length_ofInt32, Message.headerSize]
  omega

theorem Delivery.selfDelimiting_message {d : Delivery} (hMax : d.message.length ≤ maxLength) :
    SelfDelimiting Message.headerSize d.message := by
  rw [length_message] at hMax
  exact .of_length d.length_message (Nat.le_add_right _ _) hMax

theorem Delivery.read?_message {d : Delivery} (h : d.content.Readable) :
    read? d.message = some d :=
  read?_eq_some_iff.mpr ⟨h, _, rfl⟩

theorem receive_deliveries {ds : List Delivery} (hReadable : ∀ d ∈ ds, d.content.Readable)
    (hMax : ∀ d ∈ ds, d.message.length ≤ maxLength) :
    receive (ds.map Delivery.message).flatten = (ds.map some, []) := by
  have hCut : Message.cut (ds.map Delivery.message).flatten = (ds.map Delivery.message, []) := by
    rw [cut_eq_cutBy, cutBy_eq_iff]
    refine ⟨?_, rfl⟩
    intro piece hPiece
    obtain ⟨d, hd, rfl⟩ := List.mem_map.mp hPiece
    exact Delivery.selfDelimiting_message (hMax d hd)
  unfold receive
  rw [hCut]
  dsimp only
  rw [List.map_map, List.map_congr_left]
  intro d hd
  exact Delivery.read?_message (hReadable d hd)

theorem receive_messages {views : List Received} (hReadable : ∀ view ∈ views, view.Readable)
    (hMax : ∀ view ∈ views, view.message.length ≤ maxLength) :
    receive (views.map Received.message).flatten =
      (views.map fun view => some ⟨0, 0, view⟩, []) := by
  have hReceive := @receive_deliveries (views.map (⟨0, 0, ·⟩))
    (List.forall_mem_map.mpr hReadable)
    (List.forall_mem_map.mpr fun view hView => view.message_eq ▸ hMax view hView)
  rw [List.map_map, List.map_map] at hReceive
  rw [funext Received.message_eq]
  exact hReceive

/-- What a receiver gets out of a byte string tells how large its messages were. -/
theorem of_receive {b : Bytes} {views : List Received}
    (h : receive b = (views.map fun view => some ⟨0, 0, view⟩, [])) {view : Received}
    (hView : view ∈ views) : view.Readable ∧ view.message.length ≤ maxLength := by
  rcases hCut : Message.cut b with ⟨pieces, rest⟩
  unfold receive at h
  rw [hCut, Prod.mk.injEq] at h
  obtain ⟨hPieces, rfl⟩ := h
  rw [cut_eq_cutBy] at hCut
  obtain ⟨hDelimited, _⟩ := cutBy_eq_iff.mp hCut
  have hMem : some (⟨0, 0, view⟩ : Delivery) ∈ pieces.map Delivery.read? := by
    rw [hPieces]
    exact List.mem_map_of_mem hView
  obtain ⟨piece, hPiece, hRead⟩ := List.mem_map.mp hMem
  obtain ⟨hReadable, length, hLayout⟩ := Delivery.read?_eq_some_iff.mp hRead
  refine ⟨hReadable, ?_⟩
  have hSize : piece.length = view.message.length := by
    rw [hLayout, view.length_message]
    simp [Message.headerSize]
    omega
  rw [← hSize]
  exact (hDelimited piece hPiece).length_le

/-- A receiver gets the operations of a batch back, in their order and with nothing left over,
exactly if no collection has a zero byte and no message is too large. -/
theorem receive_encode_iff {ops : List (Operation H)} {batch : Batch H}
    (h : Batch.encode [] ops = .ok batch) :
    ∃ views messages, ops.mapM Operation.received = .ok views ∧
      ops.mapM Operation.message = .ok messages ∧ batch.bytes = messages.flatten ∧
      (receive batch.bytes = (views.map fun view => some ⟨0, 0, view⟩, []) ↔
        (∀ op ∈ ops, 0 ∉ Field.utf8 op.collection) ∧ ∀ m ∈ messages, m.length ≤ maxLength) := by
  obtain ⟨messages, hMessages, rfl⟩ := Batch.encode_eq_ok_iff.mp h
  rw [mapM_message] at hMessages
  obtain ⟨views, hViews, rfl⟩ := map_eq_ok_iff.mp hMessages
  refine ⟨views, views.map Received.message, hViews, ?_, rfl, ?_⟩
  · rw [mapM_message, hViews]
    rfl
  have hCollections : (∀ op ∈ ops, 0 ∉ Field.utf8 op.collection) ↔
      ∀ view ∈ views, 0 ∉ Field.utf8 view.collection := by
    have hSame := collections_of_received hViews
    constructor
    · intro hZero view hView
      have hMem := List.mem_map_of_mem (f := Received.collection) hView
      rw [hSame] at hMem
      obtain ⟨op, hOp, hName⟩ := List.mem_map.mp hMem
      exact hName ▸ hZero op hOp
    · intro hZero op hOp
      have hMem := List.mem_map_of_mem (f := Operation.collection) hOp
      rw [← hSame] at hMem
      obtain ⟨view, hView, hName⟩ := List.mem_map.mp hMem
      exact hName ▸ hZero view hView
  rw [hCollections, List.nil_append]
  constructor
  · intro hReceived
    refine ⟨fun view hView => (of_receive hReceived hView).1.collection, ?_⟩
    intro m hMem
    obtain ⟨view, hView, rfl⟩ := List.mem_map.mp hMem
    exact (of_receive hReceived hView).2
  · rintro ⟨hZero, hMax⟩
    have hSmall : ∀ view ∈ views, view.message.length ≤ maxLength :=
      fun view hView => hMax _ (List.mem_map_of_mem hView)
    refine receive_messages (fun view hView => ⟨hZero view hView, ?_⟩) hSmall
    intro data hData
    obtain ⟨op, _, hOp⟩ := exists_of_mem_mapM hViews hView
    obtain ⟨v, hv⟩ := (Operation.received_eq_ok hOp).2 data hData
    have hLe := Received.length_le_body hData
    have hLt := hSmall view hView
    rw [view.length_message] at hLt
    exact v.selfDelimiting_of_marshal hv (by omega)

/-- An insertion and a query are received as they were. -/
theorem receive_insert_and_query : ∃ (batch : Batch Nat) (views : List Received),
    Batch.encode [] [.insert ⟨"a", [.document []]⟩,
      .query { collection := "b", query := .document [], selector := some (.document []) }] =
        .ok batch ∧
    views.map Received.collection = ["a", "b"] ∧
    receive batch.bytes = (views.map fun view => some ⟨0, 0, view⟩, []) := by
  let insertion : Operation Nat := .insert ⟨"a", [.document []]⟩
  let question : Operation Nat :=
    .query { collection := "b", query := .document [], selector := some (.document []) }
  obtain ⟨batch, hEncode⟩ : ∃ batch, Batch.encode [] [insertion, question] = .ok batch := ⟨_, rfl⟩
  obtain ⟨views, messages, hViews, hMessages, _, hReceive⟩ := receive_encode_iff hEncode
  have hZero : ∀ op ∈ [insertion, question], 0 ∉ Field.utf8 op.collection := by decide
  have hMax : ∀ m ∈ messages, m.length ≤ maxLength := by
    cases hMessages
    decide
  exact ⟨batch, views, hEncode, collections_of_received hViews, hReceive.mpr ⟨hZero, hMax⟩⟩

end DocumentLink
