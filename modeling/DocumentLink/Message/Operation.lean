import DocumentLink.Bson.Encode
import DocumentLink.Message.Header
import DocumentLink.Text.Quoted

/-! Operations and the messages that carry them.  A batch is the messages of several operations
one after the other, with the positions of those that wait for a reply. -/

namespace DocumentLink

/-- Puts documents into a collection; there is no reply. -/
structure Insert where
  collection : String
  documents : List Bson.Value

/-- Looks documents up in a collection.  The reply goes to the handler, if there is one. -/
structure Query (H : Type) where
  collection : String
  query : Bson.Value
  /-- Which fields of the documents to return. -/
  selector : Option Bson.Value := none
  skip : Int32 := 0
  limit : Int32 := 0
  flags : UInt32 := 0
  handler : Option H := none

inductive Operation (H : Type) where
  | insert (op : Insert)
  | query (op : Query H)

/-- Bits of a query's flags. -/
inductive QueryFlag where
  | tailableCursor
  | slaveOk
  | oplogReplay
  | noCursorTimeout
  | awaitData
  | exhaust
  | partialResults

namespace QueryFlag

def bit : QueryFlag → UInt32
  | tailableCursor => 2
  | slaveOk => 4
  | oplogReplay => 8
  | noCursorTimeout => 16
  | awaitData => 32
  | exhaust => 64
  | partialResults => 128

def all : List QueryFlag :=
  [tailableCursor, slaveOk, oplogReplay, noCursorTimeout, awaitData, exhaust, partialResults]

end QueryFlag

namespace Insert

/-- What follows the header: a reserved zero, the collection and the documents. -/
def body (op : Insert) : Except Bson.EncodeError Bytes := do
  let documents ← op.documents.mapM Bson.Value.marshal
  pure (Bytes.ofInt32 0 ++ Field.terminated op.collection ++ documents.flatten)

/-- The fields by name, with the number of documents. -/
def describe (op : Insert) : String :=
  "InsertOp \x7b collection: " ++ Text.quoted op.collection ++ ", documents: " ++
    toString op.documents.length ++ " \x7d"

end Insert

namespace Query

variable {H : Type}

/-- What follows the header: flags, collection, skip, limit, the query and the selector. -/
def body (op : Query H) : Except Bson.EncodeError Bytes := do
  let query ← op.query.marshal
  let selector ← match op.selector with
    | none => pure []
    | some selector => selector.marshal
  pure (Bytes.ofUInt32 op.flags ++ Field.terminated op.collection ++ Bytes.ofInt32 op.skip ++
    Bytes.ofInt32 op.limit ++ query ++ selector)

/-- The fields by name; of documents and handler, whether they are there. -/
def describe (op : Query H) : String :=
  "QueryOp \x7b collection: " ++ Text.quoted op.collection ++
    ", selector: " ++ toString op.selector.isSome ++ ", skip: " ++ toString op.skip.toInt ++
    ", limit: " ++ toString op.limit.toInt ++ ", flags: " ++ toString op.flags.toNat ++
    ", handler: " ++ toString op.handler.isSome ++ " \x7d"

end Query

namespace Operation

variable {H : Type}

def handler : Operation H → Option H
  | insert _ => none
  | query op => op.handler

/-- The message of an operation. -/
def message : Operation H → Except Bson.EncodeError Bytes
  | insert op => op.body.map (Message.assemble Message.insertOpcode)
  | query op => op.body.map (Message.assemble Message.queryOpcode)

def describe : Operation H → String
  | insert op => "Insert(" ++ op.describe ++ ")"
  | query op => "Query(" ++ op.describe ++ ")"

end Operation

/-- Messages laid out one after the other.  `awaiting` has the position and the handler of each
message that wants a reply; its request id is still zero. -/
structure Batch (H : Type) where
  bytes : Bytes
  awaiting : List (Nat × H)

namespace Batch

variable {H : Type}

/-- Lays one more operation out at the end. -/
def push (batch : Batch H) (op : Operation H) : Except Bson.EncodeError (Batch H) := do
  let message ← op.message
  pure {
    bytes := batch.bytes ++ message
    awaiting := batch.awaiting ++ (op.handler.map (batch.bytes.length, ·)).toList }

/-- Lays operations out after the given bytes.  The first document that cannot be written
decides the error, and then nothing is laid out. -/
def encode (start : Bytes) (ops : List (Operation H)) : Except Bson.EncodeError (Batch H) :=
  ops.foldlM push ⟨start, []⟩

end Batch

end DocumentLink
