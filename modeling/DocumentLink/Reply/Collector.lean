import DocumentLink.Bson.Decode
import DocumentLink.Error
import DocumentLink.Reply.Header

/-! What a handler is told about its request, and the handler that gathers a whole reply.  The
first end that a collector is told of, complete or lost, decides its outcome. -/

namespace DocumentLink

/-- What a handler is told. -/
inductive Notice where
  /-- The document at place `index` of the reply. -/
  | document (header : ReplyHeader) (index : Nat) (data : Bytes)
  /-- There are no more documents. -/
  | complete (header : ReplyHeader)
  | lost (e : ConnectionLost)

/-- A whole reply. -/
structure Reply where
  header : ReplyHeader
  documents : List Bytes

/-- All documents of a reply, if every one of them can be read. -/
def Reply.decode? (reply : Reply) : Option (List Bson.Document) :=
  reply.documents.mapM Bson.decode?

structure Collector where
  /-- The documents so far. -/
  documents : List Bytes := []
  /-- How the request ended, once it has. -/
  outcome : Option (Except ConnectionLost Reply) := none

namespace Collector

/-- Sets the outcome if there is none yet. -/
def resolve (c : Collector) (outcome : Except ConnectionLost Reply) : Collector :=
  { c with outcome := some (c.outcome.getD outcome) }

def tell (c : Collector) : Notice → Collector
  | .document _ _ data => { c with documents := c.documents ++ [data] }
  | .complete header => { c.resolve (.ok ⟨header, c.documents⟩) with documents := [] }
  | .lost e => c.resolve (.error e)

/-- What a waiter is told once the collector is gone. -/
def wait (c : Collector) : Except RequestError Reply :=
  match c.outcome with
  | some (.ok reply) => .ok reply
  | some (.error e) => .error (.lost e)
  | none => .error .abandoned

end Collector

end DocumentLink
