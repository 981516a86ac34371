import DocumentLink.Message.Header

/-! The fixed fields of a reply.  They follow the message header, and documents follow them. -/

namespace DocumentLink

/-- Bits that a server sets in the flags of a reply. -/
inductive ReplyFlag where
  | cursorNotFound
  | queryFailure
  | shardConfigStale
  | awaitCapable

namespace ReplyFlag

def bit : ReplyFlag → UInt32
  | cursorNotFound => 1
  | queryFailure => 2
  | shardConfigStale => 4
  | awaitCapable => 8

def all : List ReplyFlag := [cursorNotFound, queryFailure, shardConfigStale, awaitCapable]

end ReplyFlag

structure ReplyHeader where
  flags : UInt32
  /-- Where the server continues from; zero when there is nothing more. -/
  cursorId : Int64
  /-- The place of the first document in the whole result. -/
  startingFrom : Int32
  documentCount : Int32
  deriving DecidableEq

namespace ReplyHeader

def has (header : ReplyHeader) (flag : ReplyFlag) : Bool := header.flags &&& flag.bit != 0

/-- The size of the message header and the fixed fields together. -/
def prefixSize : Nat := Message.headerSize + 20

/-- The fields as they stand on the wire. -/
def encode (header : ReplyHeader) : Bytes :=
  Bytes.ofUInt32 header.flags ++ Bytes.ofInt64 header.cursorId ++
    Bytes.ofInt32 header.startingFrom ++ Bytes.ofInt32 header.documentCount

/-- The fields that stand behind the message header; meant for at least 36 bytes. -/
def ofPrefix (b : Bytes) : ReplyHeader where
  flags := Bytes.toUInt32 ((b.drop 16).take 4)
  cursorId := Bytes.toInt64 ((b.drop 20).take 8)
  startingFrom := Bytes.toInt32 ((b.drop 28).take 4)
  documentCount := Bytes.toInt32 ((b.drop 32).take 4)

end ReplyHeader

/-- The reply to request `responseTo` with the given fields and documents, as a server sends
it. -/
def ReplyHeader.message (header : ReplyHeader) (responseTo : UInt32) (documents : List Bytes) :
    Bytes :=
  let rest := header.encode ++ documents.flatten
  Bytes.ofInt32 (Int32.ofNat (Message.headerSize + rest.length)) ++ Bytes.ofInt32 0 ++
    Bytes.ofUInt32 responseTo ++ Bytes.ofInt32 Message.replyOpcode ++ rest

end DocumentLink
