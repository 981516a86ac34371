import DocumentLink.Reply.Reader

/-! Reading through a buffer that is kept from one document to the next.  The buffer grows, shrinks
and still holds what earlier reads left in it, also those that failed.  Whatever is cut out of a
buffer, written into it or taken off a count is checked: where it would lie outside, or fall below
zero, there is no result at all. -/

namespace DocumentLink

/-- Fills the bytes of a buffer from `start` up to `stop`.  Where there are too few bytes for that,
those that there were are left in the buffer. -/
def Source.fill? (s : Source) (buffer : Bytes) (start stop : Nat) :
    Option (Reading Unit × Bytes × Source) := do
  let place ← buffer.slice? start stop
  match s.take place.length with
  | (.done b, rest) => some (.done (), buffer.patch start b, rest)
  | (.failed e, rest) => some (.failed e, buffer.patch start s.bytes, rest)
  | (.waiting, _) => some (.waiting, buffer, s)

/-- The fields behind the message header in the given buffer. -/
def ReplyHeader.ofPrefix? (b : Bytes) : Option ReplyHeader := do
  let flags ← b.int32At? 16
  let cursorId ← b.int64At? 20
  let startingFrom ← b.int32At? 28
  let documentCount ← b.int32At? 32
  some { flags := flags.toUInt32, cursorId, startingFrom, documentCount }

namespace ReplyFrame

/-- The frame whose message header and fixed fields are in the given buffer. -/
def ofPrefix? (maxMessageSize : Nat) (b : Bytes) : Option (Except ProtocolError ReplyFrame) := do
  let length ← b.int32At? Message.lengthAt
  let responseTo ← b.int32At? Message.responseToAt
  let opcode ← b.int32At? Message.opcodeAt
  if opcode ≠ Message.replyOpcode then some (.error (.unexpectedOpcode opcode))
  else if length.toInt < ReplyHeader.prefixSize then some (.error (.messageTooShort length))
  else if maxMessageSize < length.toInt then
    some (.error (.messageTooLarge length maxMessageSize))
  else
    let header ← ReplyHeader.ofPrefix? b
    if header.documentCount < 0 then some (.error (.negativeDocumentCount header.documentCount))
    else some (.ok {
      responseTo := responseTo.toUInt32
      header
      length := length.toInt.toNat
      consumed := ReplyHeader.prefixSize })

/-- Reads the fixed fields of the next reply into a buffer of their size. -/
def read? (maxMessageSize : Nat) (s : Source) : Option (Reading ReplyFrame × Source) := do
  let (reading, front, rest) ←
    s.fill? (List.replicate ReplyHeader.prefixSize 0) 0 ReplyHeader.prefixSize
  match reading with
  | .done () =>
    match ← ofPrefix? maxMessageSize front with
    | .ok frame => some (.done frame, rest)
    | .error e => some (.failed (.protocol e), rest)
  | .failed e => some (.failed e, rest)
  | .waiting => some (.waiting, s)

/-- The bytes of the reply that have not been read, if no more were read than there are. -/
def remaining? (frame : ReplyFrame) : Option Nat :=
  if frame.consumed ≤ frame.length then some (frame.length - frame.consumed) else none

/-- Reads the next document of the reply through the buffer `scratch`, and counts it. -/
def readThrough? (frame : ReplyFrame) (scratch : Bytes) (s : Source) :
    Option (Reading (Bytes × ReplyFrame) × Bytes × Source) := do
  let remaining ← frame.remaining?
  if remaining < minDocumentSize then
    some (.failed (.protocol (.documentOverrun (Int32.ofNat minDocumentSize) remaining)), scratch,
      s)
  else
    let buffer :=
      if scratch.length < minDocumentSize then scratch.resize minDocumentSize else scratch
    let (reading, buffer, afterFront) ← s.fill? buffer 0 minDocumentSize
    match reading with
    | .done () =>
      let length ← buffer.int32At? 0
      if length.toInt < minDocumentSize then
        some (.failed (.protocol (.documentTooShort length)), buffer, afterFront)
      else if remaining < length.toInt then
        some (.failed (.protocol (.documentOverrun length remaining)), buffer, afterFront)
      else
        let buffer := buffer.resize length.toInt.toNat
        let (reading, buffer, rest) ← afterFront.fill? buffer minDocumentSize buffer.length
        match reading with
        | .done () =>
          let data ← buffer.slice? 0 length.toInt.toNat
          let frame := { frame with consumed := frame.consumed + length.toInt.toNat }
          some (.done (data, frame), buffer, rest)
        | .failed e => some (.failed e, buffer, rest)
        | .waiting => some (.waiting, scratch, s)
    | .failed e => some (.failed e, buffer, afterFront)
    | .waiting => some (.waiting, scratch, s)

end ReplyFrame

/-- A reader and the buffer through which it reads documents. -/
structure BufferedReader where
  reader : Reader
  scratch : Bytes

namespace BufferedReader

def call? (r : BufferedReader) (c : Reader.Call) : Option (Reader.Answer × BufferedReader) :=
  match c with
  | .frame => do
    match ← ReplyFrame.read? r.reader.maxMessageSize r.reader.source with
    | (.done frame, source) =>
      let frames := r.reader.frames ++ [frame]
      some (.frame frame, { r with reader := { r.reader with source, frames } })
    | (.failed e, source) => some (.failed e, { r with reader := { r.reader with source } })
    | (.waiting, _) => some (.waiting, r)
  | .document index =>
    match r.reader.frame? index with
    | none => some (.noFrame, r)
    | some (i, frame) => do
      match ← frame.readThrough? r.scratch r.reader.source with
      | (.done (data, frame), scratch, source) =>
        let frames := r.reader.frames.set i frame
        some (.document data, { reader := { r.reader with source, frames }, scratch })
      | (.failed e, scratch, source) =>
        some (.failed e, { reader := { r.reader with source }, scratch })
      | (.waiting, _, _) => some (.waiting, r)
  | .finish index => some ((r.reader.call (.finish index)).1, r)

def run? (r : BufferedReader) : List Reader.Call → Option (List Reader.Answer × BufferedReader)
  | [] => some ([], r)
  | c :: rest => do
    let (answer, r) ← r.call? c
    let (answers, r) ← r.run? rest
    some (answer :: answers, r)

end BufferedReader

end DocumentLink
