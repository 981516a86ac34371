import DocumentLink.Message.Buffer
import DocumentLink.Message.Operation

/-! Laying a batch out in place.  Everything is added at the end of one buffer, which may hold other
bytes already.  How long a message is shows only when its last document is there; then its length is
set where it starts.  Where that place would lie outside of the buffer there is no result at all. -/

namespace DocumentLink.Buffer

/-- Adds documents one after the other.  What was added before one that cannot be written stays. -/
def addDocuments (b : Bytes) : List Bson.Value → Bytes × Except Bson.EncodeError Unit
  | [] => (b, .ok ())
  | v :: rest =>
    match addDocument b v with
    | .error e => (b, .error e)
    | .ok b => addDocuments b rest

variable {H : Type}

/-- Adds the message of an operation; its length is still zero. -/
def addMessage (b : Bytes) : Operation H → Bytes × Except Bson.EncodeError Unit
  | .insert op =>
    let b := addHeader b Message.insertOpcode
    let b := addInt32 b 0
    let b := addTerminated b op.collection
    addDocuments b op.documents
  | .query op =>
    let b := addHeader b Message.queryOpcode
    let b := addInt32 b op.flags.toInt32
    let b := addTerminated b op.collection
    let b := addInt32 b op.skip
    let b := addInt32 b op.limit
    addDocuments b (op.query :: op.selector.toList)

/-- Adds the messages of operations, and notes where those stand that wait for a reply. -/
def layOut? (b : Bytes) (awaiting : List (Nat × H)) :
    List (Operation H) → Option (Bytes × Except Bson.EncodeError (List (Nat × H)))
  | [] => some (b, .ok awaiting)
  | op :: rest =>
    match addMessage b op with
    | (grown, .error e) => some (grown, .error e)
    | (grown, .ok ()) => do
      let length := Int32.ofNat (grown.length - b.length)
      let grown ← grown.setInt32? (b.length + Message.lengthAt) length
      layOut? grown (awaiting ++ (op.handler.map (b.length, ·)).toList) rest

end DocumentLink.Buffer
