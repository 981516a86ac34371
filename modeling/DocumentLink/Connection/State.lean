import DocumentLink.Connection.Correlator
import DocumentLink.Connection.Lifecycle
import DocumentLink.Message.Operation
import DocumentLink.Reply.Collector
import DocumentLink.Reply.Frame

/-! One connection to a server, shared by its requests.  Its state says who holds it, which
requests wait for a reply, where the reading side stands in the bytes that have come in, and why
it is closed, if it is.  Closing tells every waiting handler; the first reason stands. -/

namespace DocumentLink

/-- Where the reading side stands. -/
inductive Phase (H : Type) where
  | betweenReplies
  /-- In a reply of which `delivered` documents have been read, with its handler if there is
  one. -/
  | inReply (frame : ReplyFrame) (handler : Option H) (delivered : Nat)
  | stopped

/-- The sending direction.  Under a limit it takes that many more bytes and then fails. -/
structure Outbound where
  limit : Option (Nat × IoError) := none

/-- Sends bytes: those that got through, and the failure if not all of them did. -/
def Outbound.write (out : Outbound) (b : Bytes) : Bytes × Option IoError × Outbound :=
  match out.limit with
  | none => (b, none, out)
  | some (n, e) =>
    if b.length ≤ n then (b, none, ⟨some (n - b.length, e)⟩)
    else (b.take n, some e, ⟨some (0, e)⟩)

structure Connection (P H : Type) where
  address : String
  maxMessageSize : Nat
  lifecycle : Lifecycle P
  correlator : Correlator H := {}
  /-- Why the connection is closed, once it is. -/
  closed : Option ConnectionLost := none
  /-- Something still refers to the connection. -/
  referenced : Bool := true
  phase : Phase H := .betweenReplies
  inbound : Source := ⟨[], .live⟩
  outbound : Outbound := {}

/-- What an operation on a connection does: the handlers it tells something, in order, the bytes
that reach the server, and its result. -/
structure Reaction (P H α : Type) where
  connection : Connection P H
  told : List (H × Notice) := []
  sent : Bytes := []
  result : α

namespace Connection

variable {P H : Type}

def isClosed (c : Connection P H) : Bool := c.closed.isSome

/-- A fresh connection, held by `pool`. -/
def opened (address : String) (maxMessageSize : Nat) (pool : P) : Connection P H where
  address
  maxMessageSize
  lifecycle := .acquired pool

/-- Closes the connection in both directions and tells every waiting handler.  A closed
connection keeps its reason. -/
def fail (c : Connection P H) (reason : String) : Reaction P H Unit :=
  let lost := c.closed.getD ⟨c.address, reason⟩
  let (pending, correlator) := c.correlator.drain
  { connection := { c with closed := some lost, correlator, inbound := c.inbound.close .ended }
    told := pending.map fun (_, handler) => (handler, .lost lost)
    result := () }

def close (c : Connection P H) : Reaction P H Unit := c.fail "closed by client"

/-- Nothing refers to the connection any more. -/
def dispose (c : Connection P H) : Reaction P H Unit :=
  let reaction := c.fail "socket dropped"
  { reaction with connection := { reaction.connection with referenced := false } }

/-- The lifecycle, the correlator and the reason for being closed, by name. -/
def describe [PoolEntry P] (c : Connection P H) : String :=
  let closed := match c.closed with
    | none => "None"
    | some lost => "Some(" ++ lost.describe ++ ")"
  "Socket \x7b address: " ++ Text.quoted c.address ++ ", state: State \x7b lifecycle: " ++
    c.lifecycle.describe ++ ", correlator: " ++ c.correlator.describe ++ ", closed: " ++ closed ++
    " \x7d \x7d"

end Connection

end DocumentLink
