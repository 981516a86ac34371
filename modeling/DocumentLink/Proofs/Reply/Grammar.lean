import DocumentLink.Proofs.Reply.Frame
import DocumentLink.Reply.Collector

/-! The grammar of replies.  A reply is read whole exactly when the source begins with one, and
then nothing behind it is touched.  Otherwise the error is that of the first condition, in the
order of the stream, that the bytes violate. -/

namespace DocumentLink

def Reading.andThen {α β : Type} (r : Reading α × Source)
    (next : α → Source → Reading β × Source) : Reading β × Source :=
  match r with
  | (.done a, s) => next a s
  | (.failed e, s) => (.failed e, s)
  | (.waiting, s) => (.waiting, s)

theorem Reading.andThen_eq_done_iff {α β : Type} {r : Reading α × Source}
    {next : α → Source → Reading β × Source} {b : β} {s' : Source} :
    Reading.andThen r next = (.done b, s') ↔
      ∃ a s, r = (.done a, s) ∧ next a s = (.done b, s') := by
  constructor
  · intro h
    obtain ⟨a | e | _, s⟩ := r
    · exact ⟨a, s, rfl, h⟩
    · cases h
    · cases h
  · rintro ⟨a, s, rfl, h⟩
    exact h

namespace ReplyFrame

/-- Reads the next documents of a reply, so many of them, which have to fill it. -/
def readDocuments (frame : ReplyFrame) (s : Source) : Nat → Reading (List Bytes) × Source
  | 0 =>
    match frame.finish with
    | .ok () => (.done [], s)
    | .error e => (.failed (.protocol e), s)
  | n + 1 =>
    Reading.andThen (frame.readDocument s) fun (data, frame) s =>
      Reading.andThen (frame.readDocuments s n) fun documents s => (.done (data :: documents), s)

end ReplyFrame

/-- Reads a whole reply: its fixed fields, as many documents as they announce and nothing more.
The result is the id of the request it answers and the reply. -/
def readReply (maxMessageSize : Nat) (s : Source) : Reading (UInt32 × Reply) × Source :=
  Reading.andThen (ReplyFrame.read maxMessageSize s) fun frame s =>
    Reading.andThen (frame.readDocuments s frame.header.documentCount.toInt.toNat)
      fun documents s => (.done (frame.responseTo, ⟨frame.header, documents⟩), s)

/-- The bytes of a reply: fixed fields and documents.  The fixed fields count all of its bytes and
all of its documents, and each document gives its own length. -/
structure IsReply (maxMessageSize : Nat) (responseTo : UInt32) (reply : Reply) (b : Bytes) :
    Prop where
  layout : ∃ (length : Int32) (requestId : Bytes), requestId.length = 4 ∧
    length.toInt = b.length ∧
    b = ReplyFrame.fixedFields length requestId responseTo Message.replyOpcode reply.header ++
      reply.documents.flatten
  bounded : b.length ≤ maxMessageSize
  count : reply.header.documentCount.toInt = reply.documents.length
  delimited : ∀ data ∈ reply.documents, SelfDelimiting 5 data

/-- A server that counts bytes and documents sends a reply. -/
theorem isReply_message {maxMessageSize : Nat} (responseTo : UInt32) {header : ReplyHeader}
    {documents : List Bytes} (hCount : header.documentCount.toInt = documents.length)
    (hDelimited : ∀ data ∈ documents, SelfDelimiting 5 data)
    (hBounded : (header.message responseTo documents).length ≤ maxMessageSize)
    (hLength : (header.message responseTo documents).length ≤ maxLength) :
    IsReply maxMessageSize responseTo ⟨header, documents⟩
      (header.message responseTo documents) := by
  have hSize : (header.message responseTo documents).length =
      Message.headerSize + (header.encode ++ documents.flatten).length := by
    simp [ReplyHeader.message, Message.headerSize]
    omega
  refine ⟨⟨Int32.ofNat (header.message responseTo documents).length, Bytes.ofInt32 0,
    Bytes.length_ofInt32 0, ?_, ?_⟩, hBounded, hCount, hDelimited⟩
  · unfold maxLength at hLength
    exact Int32.toInt_ofNat_of_lt (by omega)
  · rw [hSize]
    simp [ReplyHeader.message, ReplyFrame.fixedFields]

theorem ReplyFrame.readDocuments_eq_done_iff {frame : ReplyFrame} {s s' : Source} {n : Nat}
    {documents : List Bytes} :
    frame.readDocuments s n = (.done documents, s') ↔
      documents.length = n ∧ (∀ data ∈ documents, SelfDelimiting 5 data) ∧
        s = ⟨documents.flatten ++ s'.bytes, s'.ending⟩ ∧
        frame.consumed + documents.flatten.length = frame.length := by
  induction n generalizing frame s documents with
  | zero =>
    unfold readDocuments
    constructor
    · intro h
      split at h
      next hFinish =>
        cases h
        exact ⟨rfl, nofun, rfl, finish_eq_ok_iff.mp hFinish⟩
      next => cases h
    · rintro ⟨hNone, _, rfl, hFilled⟩
      obtain rfl := List.eq_nil_of_length_eq_zero hNone
      rw [finish_eq_ok_iff.mpr hFilled]
      rfl
  | succ n ih =>
    unfold readDocuments
    rw [Reading.andThen_eq_done_iff]
    constructor
    · rintro ⟨⟨data, next⟩, s₁, hFirst, hRest⟩
      obtain ⟨more, s₂, hMore, hDone⟩ := Reading.andThen_eq_done_iff.mp hRest
      cases hDone
      obtain ⟨hData, _, rfl, rfl⟩ := readDocument_eq_done_iff.mp hFirst
      obtain ⟨hCount, hDelimited, rfl, hFilled⟩ := ih.mp hMore
      dsimp only at hFilled
      refine ⟨by rw [List.length_cons, hCount], ?_, ?_, ?_⟩
      · intro d hd
        rcases List.mem_cons.mp hd with rfl | hMem
        · exact hData
        · exact hDelimited d hMem
      · rw [List.flatten_cons, List.append_assoc]
      · rw [List.flatten_cons, List.length_append]
        omega
    · rintro ⟨hCount, hDelimited, rfl, hFilled⟩
      obtain _ | ⟨data, more⟩ := documents
      · cases hCount
      · rw [List.flatten_cons, List.length_append] at hFilled
        have hFirst : frame.readDocument ⟨(data :: more).flatten ++ s'.bytes, s'.ending⟩ =
            (.done (data, { frame with consumed := frame.consumed + data.length }),
              ⟨more.flatten ++ s'.bytes, s'.ending⟩) := by
          rw [readDocument_eq_done_iff]
          refine ⟨hDelimited data List.mem_cons_self, ?_, ?_, rfl⟩
          · unfold remaining
            omega
          · rw [List.flatten_cons, List.append_assoc]
        refine ⟨_, _, hFirst, ?_⟩
        have hMore : readDocuments { frame with consumed := frame.consumed + data.length }
            ⟨more.flatten ++ s'.bytes, s'.ending⟩ n = (.done more, s') := by
          rw [ih]
          refine ⟨by simpa using hCount, ?_, rfl, ?_⟩
          · intro d hd
            exact hDelimited d (List.mem_cons_of_mem data hd)
          · dsimp only
            omega
        rw [Reading.andThen_eq_done_iff]
        exact ⟨more, s', hMore, rfl⟩

/-- A whole reply is read exactly when the source begins with one, which then is what is read. -/
theorem readReply_eq_done_iff {maxMessageSize : Nat} {s s' : Source} {responseTo : UInt32}
    {reply : Reply} : readReply maxMessageSize s = (.done (responseTo, reply), s') ↔
      ∃ b, IsReply maxMessageSize responseTo reply b ∧ s = ⟨b ++ s'.bytes, s'.ending⟩ := by
  unfold readReply
  rw [Reading.andThen_eq_done_iff]
  constructor
  · rintro ⟨frame, s₁, hRead, hRest⟩
    obtain ⟨documents, s₂, hDocuments, hDone⟩ := Reading.andThen_eq_done_iff.mp hRest
    cases hDone
    obtain ⟨length, requestId, hId, rfl, hSize, hMax, hLength, hCount, hConsumed⟩ :=
      ReplyFrame.read_eq_done_iff.mp hRead
    obtain ⟨hNumber, hDelimited, rfl, hFilled⟩ := ReplyFrame.readDocuments_eq_done_iff.mp hDocuments
    have hWhole : (ReplyFrame.fixedFields length requestId frame.responseTo Message.replyOpcode
        frame.header ++ documents.flatten).length = frame.length := by
      rw [List.length_append, ReplyFrame.length_fixedFields length hId, ← hConsumed, hFilled]
    refine ⟨_, ⟨⟨length, requestId, hId, ?_, rfl⟩, ?_, ?_, hDelimited⟩, ?_⟩
    · rw [hWhole, hLength]
    · rw [hWhole]
      exact hMax
    · dsimp only
      omega
    · rw [List.append_assoc]
  · rintro ⟨b, ⟨⟨length, requestId, hId, hLength, rfl⟩, hMax, hCount, hDelimited⟩, rfl⟩
    have hSize := ReplyFrame.length_fixedFields length hId responseTo Message.replyOpcode
      reply.header
    rw [List.length_append] at hLength hMax
    refine ⟨⟨responseTo, reply.header, length.toInt.toNat, ReplyHeader.prefixSize⟩,
      ⟨reply.documents.flatten ++ s'.bytes, s'.ending⟩, ?_, ?_⟩
    · rw [ReplyFrame.read_eq_done_iff]
      refine ⟨length, requestId, hId, by rw [List.append_assoc], ?_, ?_, ?_, ?_, rfl⟩
      all_goals
        dsimp only
        omega
    · rw [Reading.andThen_eq_done_iff]
      refine ⟨reply.documents, s', ?_, rfl⟩
      rw [ReplyFrame.readDocuments_eq_done_iff]
      refine ⟨?_, hDelimited, rfl, ?_⟩
      · dsimp only
        omega
      · dsimp only
        omega

/-! ### The first violated condition -/

/-- What keeps a reader from going on. -/
inductive Obstacle where
  /-- The source comes to its end. -/
  | exhausted
  | malformed (e : ProtocolError)

/-- How reading comes out at an obstacle. -/
def Obstacle.reading {α : Type} (ending : Ending) : Obstacle → Reading α
  | exhausted =>
    match ending with
    | .live => .waiting
    | .ended => .failed (.io .unexpectedEnd)
    | .failing e => .failed (.io e)
  | malformed e => .failed (.protocol e)

/-- Something that the bytes of a reply have to satisfy, and the obstacle if they do not. -/
structure Condition where
  holds : Bool
  otherwise : Obstacle

/-- The obstacle of the first condition that does not hold. -/
def firstViolated : List Condition → Option Obstacle
  | [] => none
  | condition :: rest => if condition.holds then firstViolated rest else some condition.otherwise

theorem firstViolated_append (first second : List Condition) :
    firstViolated (first ++ second) = (firstViolated first).or (firstViolated second) := by
  induction first with
  | nil => rfl
  | cons condition rest ih =>
    rw [List.cons_append, firstViolated, firstViolated]
    split
    · exact ih
    · rfl

/-- The conditions on the fixed fields, which stand at the front of `b`. -/
def fieldConditions (maxMessageSize : Nat) (b : Bytes) : List Condition :=
  let fields := b.take ReplyHeader.prefixSize
  let length := Bytes.toInt32 (fields.take 4)
  let opcode := Bytes.toInt32 ((fields.drop Message.opcodeAt).take 4)
  let count := (ReplyHeader.ofPrefix fields).documentCount
  [⟨ReplyHeader.prefixSize ≤ b.length, .exhausted⟩,
    ⟨opcode = Message.replyOpcode, .malformed (.unexpectedOpcode opcode)⟩,
    ⟨ReplyHeader.prefixSize ≤ length.toInt, .malformed (.messageTooShort length)⟩,
    ⟨length.toInt ≤ maxMessageSize, .malformed (.messageTooLarge length maxMessageSize)⟩,
    ⟨0 ≤ count.toInt, .malformed (.negativeDocumentCount count)⟩]

/-- The conditions on a document at the front of `b` when so many bytes are left of its reply. -/
def documentConditions (remaining : Nat) (b : Bytes) : List Condition :=
  let length := Bytes.toInt32 (b.take 4)
  [⟨5 ≤ remaining, .malformed (.documentOverrun 5 remaining)⟩,
    ⟨5 ≤ b.length, .exhausted⟩,
    ⟨5 ≤ length.toInt, .malformed (.documentTooShort length)⟩,
    ⟨length.toInt ≤ remaining, .malformed (.documentOverrun length remaining)⟩,
    ⟨length.toInt ≤ b.length, .exhausted⟩]

/-- The conditions on the next documents of a reply of `length` bytes, so many of them, at the
front of `b`.  Of the bytes of the reply `consumed` come before them. -/
def documentsConditions (length : Nat) : Nat → Nat → Bytes → List Condition
  | 0, consumed, _ => [⟨consumed = length, .malformed (.lengthMismatch length consumed)⟩]
  | n + 1, consumed, b =>
    let size := (Bytes.toInt32 (b.take 4)).toInt.toNat
    documentConditions (length - consumed) b ++
      documentsConditions length n (consumed + size) (b.drop size)

/-- The conditions on a reply at the front of `b`, in the order of the stream. -/
def replyConditions (maxMessageSize : Nat) (b : Bytes) : List Condition :=
  let fields := b.take ReplyHeader.prefixSize
  let length := (Bytes.toInt32 (fields.take 4)).toInt.toNat
  let count := (ReplyHeader.ofPrefix fields).documentCount.toInt.toNat
  fieldConditions maxMessageSize b ++
    documentsConditions length count ReplyHeader.prefixSize (b.drop ReplyHeader.prefixSize)

/-- Reading comes out as the conditions say: with a result if all of them hold, and otherwise as
the first violated one has it. -/
def Decides {α : Type} (ending : Ending) (conditions : List Condition) (r : Reading α) : Prop :=
  match firstViolated conditions with
  | none => ∃ a, r = .done a
  | some obstacle => r = obstacle.reading ending

theorem Decides.andThen {α β : Type} {ending : Ending} {first second : List Condition}
    {r : Reading α × Source} {next : α → Source → Reading β × Source}
    (hFirst : Decides ending first r.1)
    (hNext : ∀ a s, r = (.done a, s) → Decides ending second (next a s).1) :
    Decides ending (first ++ second) (Reading.andThen r next).1 := by
  obtain ⟨reading, s⟩ := r
  unfold Decides at *
  rw [firstViolated_append]
  cases hViolated : firstViolated first with
  | none =>
    rw [hViolated] at hFirst
    obtain ⟨a, rfl⟩ := hFirst
    exact hNext a s rfl
  | some obstacle =>
    rw [hViolated] at hFirst
    cases hFirst
    show (Reading.andThen (obstacle.reading ending, s) next).1 = _
    cases obstacle with
    | exhausted => cases ending <;> rfl
    | malformed e => rfl

theorem Decides.andThen_done {α β : Type} {ending : Ending} {conditions : List Condition}
    {r : Reading α × Source} (h : Decides ending conditions r.1) (f : α → β) :
    Decides ending conditions (Reading.andThen r fun a s => (.done (f a), s)).1 := by
  rw [← List.append_nil conditions]
  exact h.andThen fun a _ _ => ⟨f a, rfl⟩

theorem Decides.of_holds {α : Type} {ending : Ending} {condition : Condition}
    {rest : List Condition} {r : Reading α} (hHolds : condition.holds = true)
    (h : Decides ending rest r) : Decides ending (condition :: rest) r := by
  unfold Decides firstViolated
  rw [if_pos hHolds]
  exact h

theorem Decides.of_violated {α : Type} {ending : Ending} {condition : Condition}
    {rest : List Condition} {r : Reading α} (hViolated : condition.holds = false)
    (h : r = condition.otherwise.reading ending) : Decides ending (condition :: rest) r := by
  unfold Decides firstViolated
  rw [hViolated]
  exact h

theorem Source.take_of_lt {s : Source} {n : Nat} (h : s.bytes.length < n) :
    ∃ s', s.take n = (Obstacle.exhausted.reading s.ending, s') := by
  unfold take
  rw [if_neg (by rw [List.length_take]; omega)]
  rcases s.ending with _ | _ | e
  · exact ⟨_, rfl⟩
  · exact ⟨_, rfl⟩
  · exact ⟨_, rfl⟩

namespace ReplyFrame

theorem decides_read (maxMessageSize : Nat) (s : Source) :
    Decides s.ending (fieldConditions maxMessageSize s.bytes) (read maxMessageSize s).1 := by
  unfold read
  by_cases hSize : ReplyHeader.prefixSize ≤ s.bytes.length
  · rw [Source.take_of_le hSize]
    apply Decides.of_holds (decide_eq_true hSize)
    dsimp only
    unfold ofPrefix
    dsimp only
    generalize s.bytes.take ReplyHeader.prefixSize = fields
    by_cases hOpcode : Bytes.toInt32 ((fields.drop Message.opcodeAt).take 4) = Message.replyOpcode
    · rw [if_neg (not_not_intro hOpcode)]
      apply Decides.of_holds (decide_eq_true hOpcode)
      by_cases hShort : ReplyHeader.prefixSize ≤ (Bytes.toInt32 (fields.take 4)).toInt
      · rw [if_neg (Int.not_lt.mpr hShort)]
        apply Decides.of_holds (decide_eq_true hShort)
        by_cases hLarge : (Bytes.toInt32 (fields.take 4)).toInt ≤ maxMessageSize
        · rw [if_neg (Int.not_lt.mpr hLarge)]
          apply Decides.of_holds (decide_eq_true hLarge)
          by_cases hCount : 0 ≤ (ReplyHeader.ofPrefix fields).documentCount.toInt
          · rw [if_neg]
            · apply Decides.of_holds (decide_eq_true hCount)
              exact ⟨_, rfl⟩
            · rw [Int32.lt_iff_toInt_lt, Int32.toInt_zero]
              exact Int.not_lt.mpr hCount
          · rw [if_pos]
            · exact .of_violated (decide_eq_false hCount) rfl
            · rw [Int32.lt_iff_toInt_lt, Int32.toInt_zero]
              exact Int.not_le.mp hCount
        · rw [if_pos (Int.not_le.mp hLarge)]
          exact .of_violated (decide_eq_false hLarge) rfl
      · rw [if_pos (Int.not_le.mp hShort)]
        exact .of_violated (decide_eq_false hShort) rfl
    · rw [if_pos hOpcode]
      exact .of_violated (decide_eq_false hOpcode) rfl
  · obtain ⟨s', hTake⟩ := Source.take_of_lt (Nat.not_le.mp hSize)
    rw [hTake]
    apply Decides.of_violated (decide_eq_false hSize)
    unfold Obstacle.reading
    cases s.ending <;> rfl

theorem decides_readDocument (frame : ReplyFrame) (s : Source) :
    Decides s.ending (documentConditions frame.remaining s.bytes) (frame.readDocument s).1 := by
  unfold readDocument
  by_cases hRemaining : minDocumentSize ≤ frame.remaining
  · rw [if_neg (Nat.not_lt.mpr hRemaining)]
    apply Decides.of_holds (decide_eq_true hRemaining)
    by_cases hFront : minDocumentSize ≤ s.bytes.length
    · rw [Source.take_of_le hFront]
      apply Decides.of_holds (decide_eq_true hFront)
      have hLength : (s.bytes.take minDocumentSize).take 4 = s.bytes.take 4 := by
        rw [List.take_take]
        rfl
      dsimp only
      rw [hLength]
      by_cases hShort : minDocumentSize ≤ (Bytes.toInt32 (s.bytes.take 4)).toInt
      · rw [if_neg (Int.not_lt.mpr hShort)]
        apply Decides.of_holds (decide_eq_true hShort)
        by_cases hOverrun : (Bytes.toInt32 (s.bytes.take 4)).toInt ≤ frame.remaining
        · rw [if_neg (Int.not_lt.mpr hOverrun)]
          apply Decides.of_holds (decide_eq_true hOverrun)
          have hFive : minDocumentSize = 5 := rfl
          by_cases hBack : (Bytes.toInt32 (s.bytes.take 4)).toInt ≤ s.bytes.length
          · rw [Source.take_of_le (by rw [List.length_drop]; omega)]
            apply Decides.of_holds (decide_eq_true hBack)
            exact ⟨_, rfl⟩
          · obtain ⟨s', hTake⟩ := Source.take_of_lt (s := ⟨s.bytes.drop minDocumentSize, s.ending⟩)
              (n := (Bytes.toInt32 (s.bytes.take 4)).toInt.toNat - minDocumentSize)
              (by rw [List.length_drop]; omega)
            rw [hTake]
            apply Decides.of_violated (decide_eq_false hBack)
            unfold Obstacle.reading
            cases s.ending <;> rfl
        · rw [if_pos (Int.not_le.mp hOverrun)]
          exact .of_violated (decide_eq_false hOverrun) rfl
      · rw [if_pos (Int.not_le.mp hShort)]
        exact .of_violated (decide_eq_false hShort) rfl
    · obtain ⟨s', hTake⟩ := Source.take_of_lt (Nat.not_le.mp hFront)
      rw [hTake]
      apply Decides.of_violated (decide_eq_false hFront)
      unfold Obstacle.reading
      cases s.ending <;> rfl
  · rw [if_pos (Nat.not_le.mp hRemaining)]
    exact .of_violated (decide_eq_false hRemaining) rfl

theorem decides_readDocuments (frame : ReplyFrame) (s : Source) (n : Nat) :
    Decides s.ending (documentsConditions frame.length n frame.consumed s.bytes)
      (frame.readDocuments s n).1 := by
  induction n generalizing frame s with
  | zero =>
    unfold readDocuments finish
    by_cases hFilled : frame.consumed = frame.length
    · rw [if_pos hFilled]
      exact .of_holds (decide_eq_true hFilled) ⟨[], rfl⟩
    · rw [if_neg hFilled]
      exact .of_violated (decide_eq_false hFilled) rfl
  | succ n ih =>
    apply (decides_readDocument frame s).andThen
    rintro ⟨data, next⟩ rest hRead
    obtain ⟨hData, _, rfl, rfl⟩ := readDocument_eq_done_iff.mp hRead
    have hSize : (Bytes.toInt32 ((data ++ rest.bytes).take 4)).toInt.toNat = data.length := by
      have hFive : 5 ≤ data.length := hData.size
      rw [List.take_append_of_le_length (by omega), hData.length, Int.toNat_natCast]
    have hRest := ih { frame with consumed := frame.consumed + data.length } rest
    rw [hSize, List.drop_left]
    exact hRest.andThen_done (data :: ·)

end ReplyFrame

theorem decides_readReply (maxMessageSize : Nat) (s : Source) :
    Decides s.ending (replyConditions maxMessageSize s.bytes) (readReply maxMessageSize s).1 := by
  apply (ReplyFrame.decides_read maxMessageSize s).andThen
  intro frame rest hRead
  obtain ⟨length, requestId, hId, hSource, _, _, hLength, _, hConsumed⟩ :=
    ReplyFrame.read_eq_done_iff.mp hRead
  have hFields := ReplyFrame.length_fixedFields length hId frame.responseTo Message.replyOpcode
    frame.header
  have hNat : length.toInt.toNat = frame.length := by omega
  rw [hSource, ← hFields, List.take_left, List.drop_left, ReplyFrame.take_fixedFields,
    Bytes.toInt32_ofInt32, hNat, ReplyFrame.ofPrefix_fixedFields length hId, hFields, ← hConsumed]
  exact (frame.decides_readDocuments rest _).andThen_done _

/-- A reply is read whole exactly when the source begins with one; that is what is read and all
that is taken off the source.  On any other source reading comes out as the first violated
condition has it: with its error, or waiting where it asks for bytes that may still arrive. -/
theorem readReply_follows_grammar (maxMessageSize : Nat) (s : Source) :
    (∀ responseTo reply s', readReply maxMessageSize s = (.done (responseTo, reply), s') ↔
      ∃ b, IsReply maxMessageSize responseTo reply b ∧ s = ⟨b ++ s'.bytes, s'.ending⟩) ∧
    ((∃ responseTo reply b rest, IsReply maxMessageSize responseTo reply b ∧
        s.bytes = b ++ rest) ∨
      ∃ obstacle, firstViolated (replyConditions maxMessageSize s.bytes) = some obstacle ∧
        (readReply maxMessageSize s).1 = obstacle.reading s.ending) := by
  refine ⟨fun _ _ _ => readReply_eq_done_iff, ?_⟩
  have hDecides := decides_readReply maxMessageSize s
  unfold Decides at hDecides
  split at hDecides
  next =>
    obtain ⟨⟨responseTo, reply⟩, hDone⟩ := hDecides
    rcases hRead : readReply maxMessageSize s with ⟨r, s'⟩
    rw [hRead] at hDone
    cases hDone
    obtain ⟨b, hReply, hSource⟩ := readReply_eq_done_iff.mp hRead
    exact .inl ⟨responseTo, reply, b, s'.bytes, hReply, by rw [hSource]⟩
  next obstacle hViolated => exact .inr ⟨obstacle, hViolated, hDecides⟩

end DocumentLink
