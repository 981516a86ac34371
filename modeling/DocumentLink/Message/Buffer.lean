import DocumentLink.Bson.Encode
import DocumentLink.Message.Header

/-! Building a message by hand: the pieces that are added at the end of a buffer.  A field that is
known only later is set with `Bytes.setInt32?`. -/

namespace DocumentLink.Buffer

def addHeader (b : Bytes) (opcode : Int32) : Bytes := b ++ Message.blankHeader opcode

def addInt32 (b : Bytes) (n : Int32) : Bytes := b ++ Bytes.ofInt32 n

/-- Adds a text and a zero byte.  Zeros in the text itself are added as they are. -/
def addTerminated (b : Bytes) (s : String) : Bytes := b ++ Field.terminated s

def addDocument (b : Bytes) (v : Bson.Value) : Except Bson.EncodeError Bytes :=
  v.marshal.map (b ++ ·)

end DocumentLink.Buffer
