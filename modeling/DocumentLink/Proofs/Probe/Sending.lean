import DocumentLink.Probe.Run
import DocumentLink.Proofs.Bson.Canonical
import DocumentLink.Proofs.Connection.Sending
import DocumentLink.Proofs.Message.Received
import DocumentLink.Proofs.Probe.CommandLine

/-! From the command line to the wire.  What the command sends is read back as an insertion, if
there is something to insert, and a query; and the documents in them have the keys and values that
the texts of the command line say. -/

namespace DocumentLink

/-! ### The last message of a batch -/

/-- The last message of a batch is given the next id. -/
theorem Connection.stamp_last {H : Type} (correlator : Correlator H) (before : Bytes)
    {message : Bytes} (h : Message.headerSize ≤ message.length) (handler : H) :
    (stamp correlator (before ++ message) [(before.length, handler)]).2.2 =
      before ++ Message.withRequestId message correlator.nextId := by
  have hPatch := Bytes.patch_append before (Message.requestId_fits h correlator.nextId) []
  rw [List.append_nil, List.append_nil] at hPatch
  exact hPatch

theorem Received.withRequestId_message (r : Received) (id : UInt32) :
    Message.withRequestId r.message id = Delivery.message ⟨id.toInt32, 0, r⟩ := by
  let length := Bytes.ofInt32 (Int32.ofNat (Message.headerSize + r.body.length))
  let rest := Bytes.ofInt32 0 ++ (Bytes.ofInt32 r.opcode ++ r.body)
  have hLength : length.length = Message.requestIdAt := Bytes.length_ofInt32 _
  have hIds : (length ++ Bytes.ofInt32 0).length =
      Message.requestIdAt + (Bytes.ofUInt32 id).length := by
    rw [List.length_append, hLength, Bytes.length_ofInt32, Bytes.length_ofUInt32]
  calc Message.withRequestId r.message id
      = Message.withRequestId (length ++ (Bytes.ofInt32 0 ++ rest)) id := by
        rw [message_eq]
        rfl
    _ = length ++ Bytes.ofUInt32 id ++ rest := by
        rw [Message.withRequestId, Bytes.patch, List.take_left' hLength, ← List.append_assoc length,
          List.drop_left' hIds]
    _ = Delivery.message ⟨id.toInt32, 0, r⟩ := by
        rw [List.append_assoc, ← UInt32.toUInt32_toInt32 id]
        rfl

/-! ### Documents -/

namespace Probe

/-- A document as the texts say.  Its keys are what stands before the first equals signs, each at
its first place; the value of a key is what stands behind it in the last text that has the key. -/
structure Gathers (texts : List String) (d : Bson.Document) : Prop where
  keys : ∃ fields : List (String × String), (∀ f ∈ fields, '=' ∉ f.1.toList) ∧
    texts = fields.map joined ∧ d.map Prod.fst = (fields.map Prod.fst).eraseDups
  values : ∀ key v, (key, v) ∈ d → '=' ∉ key.toList ∧ ∃ first value rest,
    texts = first ++ joined (key, value) :: rest ∧ v = .string value ∧
      ∀ later, joined (key, later) ∉ rest

/-- Bytes that are read as the texts say. -/
def Tells (texts : List String) (b : Bytes) : Prop :=
  ∃ d, Bson.decode? b = some d ∧ Gathers texts d

variable {said : List String} {fields : List (String × String)} {d : Bson.Document}

theorem gathers_document (h : said.mapM field = .ok fields) :
    Gathers said ((document fields).map fun (key, value) => (key, .string value)) := by
  obtain ⟨hKeys, rfl⟩ := mapM_field_eq_ok_iff.mp h
  rw [document, Bson.Document.collapse_eq_settled]
  refine ⟨⟨fields, hKeys, rfl, ?_⟩, ?_⟩
  · rw [List.map_map]
    exact Bson.Document.keys_settled fields
  · intro key v hMem
    obtain ⟨⟨key, value⟩, hField, ⟨⟩⟩ := List.mem_map.mp hMem
    obtain ⟨first, rest, rfl, hLast⟩ := Bson.Document.lastGiven?_eq_some_iff.mp
      (Bson.Document.lastGiven?_of_mem_settled hField)
    have hKey := hKeys (key, value) (List.mem_append_right _ List.mem_cons_self)
    refine ⟨hKey, first.map joined, value, rest.map joined, List.map_append, rfl, ?_⟩
    intro later hLater
    obtain ⟨f, hf, hJoined⟩ := List.mem_map.mp hLater
    have hSame : f = (key, later) := by
      have hField : field (joined (key, later)) = .ok (key, later) :=
        field_eq_ok_iff.mpr ⟨hKey, rfl⟩
      have hMem : f ∈ first ++ (key, value) :: rest := by simp [hf]
      exact Except.ok.inj ((field_eq_ok_iff.mpr ⟨hKeys f hMem, hJoined.symm⟩).symm.trans hField)
    exact hLast (List.mem_map.mpr ⟨f, hf, by rw [hSame]⟩)

namespace Gathers

theorem nodup (h : Gathers said d) : (d.map Prod.fst).Nodup := by
  obtain ⟨fields, _, _, hKeys⟩ := h.keys
  rw [hKeys, ← Bson.Document.keys_settled]
  exact Bson.Document.nodup_settled fields

theorem strings (h : Gathers said d) : ∀ v ∈ d.map Prod.snd, ∃ value, v = .string value := by
  intro v hValue
  obtain ⟨⟨key, v⟩, hField, rfl⟩ := List.mem_map.mp hValue
  obtain ⟨_, _, value, _, _, hString, _⟩ := h.values key v hField
  exact ⟨value, hString⟩

theorem zero_notMem (h : Gathers said d) (hZero : ∀ text ∈ said, Char.ofNat 0 ∉ text.toList) :
    ∀ key ∈ d.map Prod.fst, Char.ofNat 0 ∉ key.toList := by
  intro key hKey
  obtain ⟨⟨key, v⟩, hField, rfl⟩ := List.mem_map.mp hKey
  obtain ⟨_, first, value, rest, rfl, _⟩ := h.values key v hField
  have hText := hZero (joined (key, value)) (List.mem_append_right _ List.mem_cons_self)
  rw [toList_joined, List.mem_append, not_or] at hText
  exact hText.1

/-- It can be written, and is its own normal form. -/
theorem marshal (h : Gathers said d) (hZero : ∀ text ∈ said, Char.ofNat 0 ∉ text.toList) :
    ∃ b, (Bson.Value.document d).marshal = .ok b ∧
      (b.length ≤ maxLength → Bson.decode? b = some d) := by
  have hWritten : ∀ v ∈ d.map Prod.snd, ∃ r, v.encode = .ok r := by
    intro v hValue
    obtain ⟨value, rfl⟩ := h.strings v hValue
    exact ⟨_, rfl⟩
  have hNormal : ∀ v ∈ d.map Prod.snd, v.normal = v := by
    intro v hValue
    obtain ⟨value, rfl⟩ := h.strings v hValue
    simp only [Bson.Value.normal]
  obtain ⟨elements, hElements⟩ := Bson.encodeFields_isOk_iff.mpr ⟨h.zero_notMem hZero, hWritten⟩
  have hMarshal := Bson.marshal_document_eq_ok_iff.mpr ⟨elements, hElements, rfl⟩
  refine ⟨_, hMarshal, fun hMax => ?_⟩
  rw [Bson.decode?_of_marshal hMarshal hMax, Bson.Document.normal, Bson.normalFields_eq hNormal,
    Bson.Document.settled_of_nodup h.nodup]

end Gathers

/-- The document of texts without zeros can be written, and is read as the texts say. -/
theorem marshal_texts (h : said.mapM field = .ok fields)
    (hZero : ∀ text ∈ said, Char.ofNat 0 ∉ text.toList) :
    ∃ b, (texts (document fields)).marshal = .ok b ∧ (b.length ≤ maxLength → Tells said b) := by
  have hGathers := gathers_document h
  obtain ⟨b, hMarshal, hDecode⟩ := hGathers.marshal hZero
  exact ⟨b, hMarshal, fun hMax => ⟨_, hDecode hMax, hGathers⟩⟩

/-! ### Messages -/

variable {a : Arguments} {views : List Received} {view : Received}

theorem encode_operations (hInsertion : a.insertion.mapM Operation.received = .ok views)
    (hQuery : (Operation.query a.query).received = .ok view) :
    Batch.encode [] a.operations = .ok {
      bytes := (views.map Received.message).flatten ++ view.message
      awaiting := [((views.map Received.message).flatten.length, ())] } := by
  have hReceived : a.operations.mapM Operation.received = .ok (views ++ [view]) := by
    rw [Arguments.operations, List.mapM_append, hInsertion, List.mapM_cons, hQuery]
    rfl
  have hLength : a.insertion.length = (views.map Received.message).length := by
    rw [List.length_map, (mapM_eq_ok_iff.mp hInsertion).length_eq]
  have hPlain : Batch.awaitingFrom 0 a.insertion (views.map Received.message) = [] := by
    have hHandlers := Batch.handlers_awaitingFrom 0 hLength
    have hNone : a.insertion.filterMap Operation.handler = [] := by
      unfold Arguments.insertion
      split <;> rfl
    rwa [hNone, List.map_eq_nil_iff] at hHandlers
  rw [Batch.encode_eq, mapM_message, hReceived, Except.map, Except.map, Arguments.operations,
    List.map_append, Batch.awaitingFrom_append hLength, List.length_nil, hPlain,
    List.flatten_append, List.map_singleton, List.flatten_singleton, List.nil_append,
    List.nil_append, Nat.zero_add]
  rfl

/-- The connection over which everything goes. -/
def dialed (a : Arguments) (peer : String) : Connection Pool Unit :=
  .opened peer a.config.maxMessageSize (.cache a.address)

theorem query_dialed (peer : String) (hInsertion : a.insertion.mapM Operation.received = .ok views)
    (hQuery : (Operation.query a.query).received = .ok view) :
    ((dialed a peer).query a.operations).sent =
        ((views.map (Delivery.mk 0 0) ++ [Delivery.mk 1 0 view]).map Delivery.message).flatten ∧
      ((dialed a peer).query a.operations).result = .ok () := by
  have hFirst : ({} : Correlator Unit).nextId = 1 := by
    rw [Correlator.nextId_of_empty rfl]
    rfl
  have hSize : Message.headerSize ≤ view.message.length := by
    rw [view.length_message]
    exact Nat.le_add_right _ _
  have hStamp := Connection.stamp_last {} (views.map Received.message).flatten hSize ()
  rw [hFirst, view.withRequestId_message, funext Received.message_eq] at hStamp
  unfold Connection.query
  rw [encode_operations hInsertion hQuery]
  refine ⟨?_, rfl⟩
  rw [List.map_append, List.map_map, List.flatten_append, List.map_singleton,
    List.flatten_singleton]
  exact hStamp

/-- A server that can be reached gets what is sent at the start. -/
theorem sent_of_exchange (a : Arguments) (peer : String) (reply : Bytes) (hangup : Bool) :
    (exchange .listening a peer reply hangup).1 = (start a peer).1 := by
  unfold exchange
  rcases start a peer with ⟨sent, result⟩
  cases result <;> rfl

theorem mapM_insertion {inserted : Bytes}
    (h : a.inserts ≠ [] → (texts (document a.inserts)).marshal = .ok inserted) :
    a.insertion.mapM Operation.received =
      .ok (if a.inserts = [] then [] else [.insert a.collection [inserted]]) := by
  unfold Arguments.insertion
  simp only [List.isEmpty_iff]
  split
  next => rfl
  next hSome =>
    rw [List.mapM_cons, Operation.received]
    dsimp only
    rw [List.mapM_cons, h hSome]
    rfl

theorem received_query {filter : Bytes} (h : (texts (document a.filters)).marshal = .ok filter) :
    (Operation.query a.query).received =
      .ok (.query (if a.slaveOk then QueryFlag.slaveOk.bit else 0)
        a.collection a.skip a.limit filter none) := by
  rw [Operation.received]
  dsimp only [Arguments.query]
  rw [h]
  rfl

namespace Inquiry

/-- The messages that a server gets. -/
def deliveries (i : Inquiry) (inserted filter : Bytes) : List Delivery :=
  (if i.inserts = [] then [] else [⟨0, 0, .insert i.collection [inserted]⟩]) ++
    [⟨1, 0, .query (if i.slaveOk then 4 else 0) i.collection i.skip i.limit filter none⟩]

theorem mem_deliveries {i : Inquiry} {inserted filter : Bytes} {d : Delivery} :
    d ∈ i.deliveries inserted filter ↔
      i.inserts ≠ [] ∧ d = ⟨0, 0, .insert i.collection [inserted]⟩ ∨
        d = ⟨1, 0,
          .query (if i.slaveOk then 4 else 0) i.collection i.skip i.limit filter none⟩ := by
  unfold deliveries
  split <;> simp [*]

/-- What a server can make of messages that are not too large together. -/
theorem receive_messages_of_inquiry {i : Inquiry} {inserted filter : Bytes}
    (hCollection : Char.ofNat 0 ∉ i.collection.toList)
    (hInserted : ∃ v : Bson.Value, v.marshal = .ok inserted)
    (hFilter : ∃ v : Bson.Value, v.marshal = .ok filter)
    (hMax : ((i.deliveries inserted filter).map Delivery.message).flatten.length ≤ maxLength) :
    receive ((i.deliveries inserted filter).map Delivery.message).flatten =
        ((i.deliveries inserted filter).map some, []) ∧
      (i.inserts ≠ [] → inserted.length ≤ maxLength) ∧ filter.length ≤ maxLength := by
  have hSmall : ∀ d ∈ i.deliveries inserted filter, d.message.length ≤ maxLength := fun d hd =>
    (List.sublist_flatten_of_mem (List.mem_map_of_mem hd)).length_le.trans hMax
  have hDocuments : ∀ d ∈ i.deliveries inserted filter, ∀ data ∈ d.content.documents,
      data.length ≤ maxLength := by
    intro d hd data hData
    have hBody := Received.length_le_body hData
    have hMessage := d.length_message ▸ hSmall d hd
    omega
  have hReadable : ∀ d ∈ i.deliveries inserted filter, d.content.Readable := by
    intro d hd
    have hLength := hDocuments d hd
    rw [← Field.zero_mem_utf8_iff] at hCollection
    rcases mem_deliveries.mp hd with ⟨_, rfl⟩ | rfl
    · obtain ⟨v, hMarshal⟩ := hInserted
      refine ⟨hCollection, List.forall_mem_singleton.mpr ?_⟩
      exact v.selfDelimiting_of_marshal hMarshal (hLength _ List.mem_cons_self)
    · obtain ⟨v, hMarshal⟩ := hFilter
      refine ⟨hCollection, List.forall_mem_singleton.mpr ?_⟩
      exact v.selfDelimiting_of_marshal hMarshal (hLength _ List.mem_cons_self)
  refine ⟨receive_deliveries hReadable hSmall, fun hSome => ?_, ?_⟩
  · exact hDocuments _ (mem_deliveries.mpr (.inl ⟨hSome, rfl⟩)) _ List.mem_cons_self
  · exact hDocuments _ (mem_deliveries.mpr (.inr rfl)) _ List.mem_cons_self

theorem AskedBy.start_eq {i : Inquiry} {args : List String} (hAsked : i.AskedBy args a)
    (hTimeout : a.config.writeTimeout ≠ some 0) (peer : String) {inserted filter : Bytes}
    (hInserted : (texts (document a.inserts)).marshal = .ok inserted)
    (hFilter : (texts (document a.filters)).marshal = .ok filter) :
    (start a peer).1 = ((i.deliveries inserted filter).map Delivery.message).flatten ∧
      (start a peer).1 = ((dialed a peer).query a.operations).sent ∧
      ∃ run, (start a peer).2 = .ok run := by
  obtain ⟨hSent, hOk⟩ :=
    query_dialed peer (mapM_insertion fun _ => hInserted) (received_query hFilter)
  have hNone : a.inserts = [] ↔ i.inserts = [] := by
    have hInserts := Arguments.mapM_given (o := .insert) hAsked.accepted rfl
    rw [← hAsked.inserts, (mapM_field_eq_ok_iff.mp hInserts).2, List.map_eq_nil_iff]
    rfl
  have hStart : start a peer = (((dialed a peer).query a.operations).sent,
      ((dialed a peer).query a.operations).result.map fun () =>
        { connection := ((dialed a peer).query a.operations).connection }) := if_neg hTimeout
  refine ⟨?_, by rw [hStart], ?_⟩
  · rw [hStart, hSent, deliveries, hAsked.collection, hAsked.skip, hAsked.limit, hAsked.slaveOk]
    simp only [hNone]
    split <;> rfl
  · rw [hStart, hOk]
    exact ⟨_, rfl⟩

/-- What a run over a connection to `peer` sends is what is asked for. -/
structure Conveys (i : Inquiry) (a : Arguments) (peer : String) : Prop where
  started : ∃ run, (start a peer).2 = .ok run
  received : ∃ inserted filter,
    receive (start a peer).1 = ((i.deliveries inserted filter).map some, []) ∧
      (i.inserts ≠ [] → Tells i.inserts inserted) ∧ Tells i.filters filter
  /-- It goes out in one write, and nothing after it. -/
  once : ∀ later, (∀ entry ∈ later, Connection.Entry.isQuery entry = false) →
    Connection.sent (⟨dialed a peer, .query a.operations⟩ :: later) = (start a peer).1
  /-- Whatever the server answers. -/
  answered : ∀ reply hangup, (exchange .listening a peer reply hangup).1 = (start a peer).1

/-- Whatever somebody wants, it can be asked for; and whenever it is asked for, in whatever way, the
server gets an insertion, if there is something to insert, and a query, with documents as the texts
of the command line say. -/
theorem is_conveyed (i : Inquiry) (hEquals : ∀ text ∈ i.filters ++ i.inserts, '=' ∈ text.toList)
    (hZero : ∀ text ∈ i.filters ++ i.inserts, Char.ofNat 0 ∉ text.toList)
    (hCollection : Char.ofNat 0 ∉ i.collection.toList) :
    (∃ args a, i.AskedBy args a ∧ a.config = {}) ∧
      ∀ args a peer, i.AskedBy args a → a.config.writeTimeout ≠ some 0 →
        (start a peer).1.length ≤ maxLength → i.Conveys a peer := by
  refine ⟨i.exists_askedBy hEquals, ?_⟩
  intro args a peer hAsked hTimeout hMax
  rw [List.forall_mem_append] at hZero
  have hFilters := Arguments.mapM_given (o := .filter) hAsked.accepted rfl
  have hInserts := Arguments.mapM_given (o := .insert) hAsked.accepted rfl
  rw [hAsked.filters] at hFilters
  rw [hAsked.inserts] at hInserts
  obtain ⟨filter, hFilter, hTellsFilter⟩ := marshal_texts hFilters hZero.1
  obtain ⟨inserted, hInserted, hTellsInserted⟩ := marshal_texts hInserts hZero.2
  obtain ⟨hBytes, hSent, hStarted⟩ := hAsked.start_eq hTimeout peer hInserted hFilter
  rw [hBytes] at hMax
  obtain ⟨hReceive, hSmallInserted, hSmallFilter⟩ :=
    receive_messages_of_inquiry hCollection ⟨_, hInserted⟩ ⟨_, hFilter⟩ hMax
  refine ⟨hStarted, ?received, ?once, sent_of_exchange a peer⟩
  case received =>
    rw [← hBytes] at hReceive
    exact ⟨inserted, filter, hReceive, fun hSome => hTellsInserted (hSmallInserted hSome),
      hTellsFilter hSmallFilter⟩
  case once =>
    intro later hLater
    have hSilent : later.flatMap (fun entry => entry.reaction.sent) = [] :=
      List.flatMap_eq_nil_iff.mpr fun entry hEntry =>
        Connection.sent_of_not_query (hLater entry hEntry)
    rw [hSent, Connection.sent, List.flatMap_cons, hSilent, List.append_nil]
    rfl

/-- A key that is inserted twice, and a value with an equals sign in it. -/
theorem is_conveyed_with_repeated_key :
    let i : Inquiry := {
      address := "db", collection := "a.b", filters := ["k=v=w"], inserts := ["x=1", "y=", "x=2"]
      limit := -2, slaveOk := true }
    let args := ["-ix=1", "db", "--filter", "k=v=w", "--insert=y=", "a.b", "--limit=-2", "-i",
      "x=2", "--slave-ok"]
    ∃ a, i.AskedBy args a ∧ i.Conveys a "db" := by
  intro i args
  let a : Arguments := {
    address := "db", collection := "a.b", filters := [("k", "v=w")]
    inserts := [("x", "1"), ("y", ""), ("x", "2")], limit := -2, slaveOk := true }
  have hAsked : i.AskedBy args a := by
    refine ⟨?_, rfl, rfl, ?_, ?_, rfl, rfl, rfl⟩
    · rfl
    · rfl
    · rfl
  have hTimeout : a.config.writeTimeout ≠ some 0 := Option.some_ne_none 0 |>.symm
  obtain ⟨_, hConveys⟩ := i.is_conveyed (by decide) (by decide) (by decide)
  exact ⟨a, hAsked, hConveys args a "db" hAsked hTimeout (by decide)⟩

end Inquiry

end Probe

end DocumentLink
