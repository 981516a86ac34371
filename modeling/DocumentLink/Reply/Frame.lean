import DocumentLink.Reply.Header
import DocumentLink.Reply.Source

/-! Cutting replies out of a source.  A frame is a reply whose fixed fields have been read; it
counts the bytes of the reply that have been used, so that no document is read past the end of
its reply and a reply whose documents do not fill it is noticed. -/

namespace DocumentLink

structure ReplyFrame where
  responseTo : UInt32
  header : ReplyHeader
  /-- The bytes that the reply declares in all. -/
  length : Nat
  /-- Those of them that have been read. -/
  consumed : Nat
  deriving DecidableEq

namespace ReplyFrame

/-- The fewest bytes a document can have: its length and a zero byte. -/
def minDocumentSize : Nat := 5

/-- The frame whose message header and fixed fields are the given 36 bytes. -/
def ofPrefix (maxMessageSize : Nat) (b : Bytes) : Except ProtocolError ReplyFrame :=
  let length := Bytes.toInt32 (b.take 4)
  let opcode := Bytes.toInt32 ((b.drop Message.opcodeAt).take 4)
  let header := ReplyHeader.ofPrefix b
  if opcode ≠ Message.replyOpcode then .error (.unexpectedOpcode opcode)
  else if length.toInt < ReplyHeader.prefixSize then .error (.messageTooShort length)
  else if maxMessageSize < length.toInt then .error (.messageTooLarge length maxMessageSize)
  else if header.documentCount < 0 then .error (.negativeDocumentCount header.documentCount)
  else .ok {
    responseTo := Bytes.toUInt32 ((b.drop Message.responseToAt).take 4)
    header
    length := length.toInt.toNat
    consumed := ReplyHeader.prefixSize }

/-- Reads the fixed fields of the next reply. -/
def read (maxMessageSize : Nat) (s : Source) : Reading ReplyFrame × Source :=
  match s.take ReplyHeader.prefixSize with
  | (.done front, rest) =>
    match ofPrefix maxMessageSize front with
    | .ok frame => (.done frame, rest)
    | .error e => (.failed (.protocol e), rest)
  | (.failed e, rest) => (.failed e, rest)
  | (.waiting, _) => (.waiting, s)

/-- The bytes of the reply that have not been read. -/
def remaining (frame : ReplyFrame) : Nat := frame.length - frame.consumed

/-- Reads the next document of the reply, and counts it. -/
def readDocument (frame : ReplyFrame) (s : Source) : Reading (Bytes × ReplyFrame) × Source :=
  if frame.remaining < minDocumentSize then
    (.failed (.protocol (.documentOverrun (Int32.ofNat minDocumentSize) frame.remaining)), s)
  else
    match s.take minDocumentSize with
    | (.done front, afterFront) =>
      let length := Bytes.toInt32 (front.take 4)
      if length.toInt < minDocumentSize then
        (.failed (.protocol (.documentTooShort length)), afterFront)
      else if frame.remaining < length.toInt then
        (.failed (.protocol (.documentOverrun length frame.remaining)), afterFront)
      else
        match afterFront.take (length.toInt.toNat - minDocumentSize) with
        | (.done back, rest) =>
          (.done (front ++ back, { frame with consumed := frame.consumed + length.toInt.toNat }),
            rest)
        | (.failed e, rest) => (.failed e, rest)
        | (.waiting, _) => (.waiting, s)
    | (.failed e, rest) => (.failed e, rest)
    | (.waiting, _) => (.waiting, s)

theorem length_read_le (maxMessageSize : Nat) (s : Source) :
    (read maxMessageSize s).2.bytes.length ≤ s.bytes.length := by
  have hTake := s.length_take_le ReplyHeader.prefixSize
  simp only [read]
  split
  next h =>
    rw [h] at hTake
    split <;> exact hTake
  next h =>
    rw [h] at hTake
    exact hTake
  next => exact Nat.le_refl _

theorem length_of_read_done {maxMessageSize : Nat} {s s' : Source} {frame : ReplyFrame}
    (h : read maxMessageSize s = (.done frame, s')) : s'.bytes.length < s.bytes.length := by
  simp only [read] at h
  split at h
  next hTake =>
    obtain ⟨hLength, hBytes, _⟩ := Source.eq_of_take_done hTake
    split at h <;> cases h
    rw [hBytes, List.length_append, hLength]
    simp only [ReplyHeader.prefixSize]
    omega
  next => cases h
  next => cases h

theorem length_readDocument_le (frame : ReplyFrame) (s : Source) :
    (frame.readDocument s).2.bytes.length ≤ s.bytes.length := by
  have hTake := s.length_take_le minDocumentSize
  simp only [readDocument]
  split
  · exact Nat.le_refl _
  · split
    next front rest h =>
      rw [h] at hTake
      have hRest := rest.length_take_le
        ((Bytes.toInt32 (front.take 4)).toInt.toNat - minDocumentSize)
      split
      · exact hTake
      · split
        · exact hTake
        · split
          next h' =>
            rw [h'] at hRest
            exact Nat.le_trans hRest hTake
          next h' =>
            rw [h'] at hRest
            exact Nat.le_trans hRest hTake
          next => exact Nat.le_refl _
    next h =>
      rw [h] at hTake
      exact hTake
    next => exact Nat.le_refl _

theorem length_of_readDocument_done {frame frame' : ReplyFrame} {s s' : Source} {data : Bytes}
    (h : frame.readDocument s = (.done (data, frame'), s')) :
    s'.bytes.length < s.bytes.length := by
  simp only [readDocument] at h
  split at h
  · cases h
  · split at h
    next front rest hTake =>
      obtain ⟨hLength, hBytes, _⟩ := Source.eq_of_take_done hTake
      have hRest := rest.length_take_le
        ((Bytes.toInt32 (front.take 4)).toInt.toNat - minDocumentSize)
      split at h
      · cases h
      · split at h
        · cases h
        · split at h
          next hTake' =>
            rw [hTake'] at hRest
            cases h
            rw [hBytes, List.length_append, hLength]
            simp only [minDocumentSize]
            dsimp only at hRest
            omega
          next => cases h
          next => cases h
    next => cases h
    next => cases h

/-- Checks that every byte the reply declared has been read. -/
def finish (frame : ReplyFrame) : Except ProtocolError Unit :=
  if frame.consumed = frame.length then .ok ()
  else .error (.lengthMismatch frame.length frame.consumed)

end ReplyFrame

end DocumentLink
