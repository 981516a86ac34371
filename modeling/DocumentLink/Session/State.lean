import DocumentLink.Config
import DocumentLink.Connection.Reading
import DocumentLink.Connection.Request

/-! A client's dealings with one server: the connections it has opened, numbered in order, its
handles on them, the pools that cache idle connections, those that only count what comes back to
them, and the replies it waits for. -/

namespace DocumentLink

/-- What an attempt to connect meets. -/
inductive Network where
  | listening
  /-- The server is there and takes no connections. -/
  | refusing
  | unreachable
  deriving DecidableEq

def Network.connect : Network → Except IoError Unit
  | listening => .ok ()
  | refusing => .error .connectionRefused
  | unreachable => .error .networkUnreachable

/-- The pools of a session: those that cache, all known by the server's address and told apart by a
number, and those that count, known by a label. -/
inductive Pool where
  | cache (address : String) (number : Nat := 0)
  | counter (label : String)
  deriving DecidableEq

instance : PoolEntry Pool where
  address
    | .cache address _ => address
    | .counter label => label

inductive HandlerKind where
  /-- Reports everything that it is told. -/
  | recorder
  /-- Reports documents only. -/
  | documents
  /-- Reports nothing and gathers the reply. -/
  | collector
  deriving DecidableEq

structure Handler where
  /-- Its place among all handlers of the session. -/
  number : Nat
  label : String
  kind : HandlerKind

/-- A connection and whether the client has a handle on it. -/
structure Slot where
  connection : Connection Pool Handler
  held : Bool := true

/-- A reply that is waited for under a label, and the handler that gathers it. -/
structure Waiter where
  label : String
  handler : Nat
  collector : Collector := {}

structure Session where
  address : String
  config : Config
  network : Network
  slots : List Slot := []
  /-- The cached connections, each with the number of its cache, the one released last first. -/
  idle : List (Nat × Nat) := []
  /-- How many connections came back to each counting pool. -/
  recycled : List (String × Nat) := []
  waiters : List Waiter := []
  /-- How many handlers there have been. -/
  handlers : Nat := 0

/-- What one action does to a session: whom it tells what, and its result. -/
structure Effect (α : Type) where
  session : Session
  told : List (Handler × Notice) := []
  result : α

namespace Session

/-- The connection under a number, if the client has a handle on it. -/
def held? (s : Session) (i : Nat) : Option (Connection Pool Handler) :=
  match s.slots[i]? with
  | some slot => if slot.held then some slot.connection else none
  | none => none

def setConnection (s : Session) (i : Nat) (c : Connection Pool Handler) : Session :=
  { s with slots := s.slots.modify i fun slot => { slot with connection := c } }

def setLifecycle (s : Session) (i : Nat) (lifecycle : Lifecycle Pool) : Session :=
  { s with slots := s.slots.modify i fun slot =>
      { slot with connection := { slot.connection with lifecycle } } }

/-- The connections in cache `number`, the one released last first. -/
def cached (s : Session) (number : Nat) : List Nat :=
  (s.idle.filter fun entry => entry.1 = number).map Prod.snd

/-- Puts other connections into cache `number`. -/
def setCached (s : Session) (number : Nat) (sockets : List Nat) : Session :=
  { s with idle := sockets.map (number, ·) ++ s.idle.filter fun entry => entry.1 ≠ number }

def setHeld (s : Session) (i : Nat) (held : Bool) : Session :=
  { s with slots := s.slots.modify i fun slot => { slot with held } }

/-- Hands what a handler was told to the reply it gathers. -/
def deliver (s : Session) (told : List (Handler × Notice)) : Session :=
  told.foldl (fun s (handler, notice) =>
    { s with waiters := s.waiters.map fun w =>
        if w.handler = handler.number then { w with collector := w.collector.tell notice }
        else w }) s

/-- Takes over what an operation did to connection `i`, with the reading it made possible. -/
def adopt {α : Type} (s : Session) (i : Nat) (r : Reaction Pool Handler α) : Effect α :=
  let r := r.settled
  { session := (s.setConnection i r.connection).deliver r.told, told := r.told, result := r.result }

/-- A connection to which neither a handle nor a cache refers any more. -/
def isLoose (s : Session) (i : Nat) (slot : Slot) : Bool :=
  slot.connection.referenced && !slot.held && !s.idle.any fun entry => entry.2 == i

/-- Disposes of every loose connection. -/
def sweep (s : Session) : Effect Unit :=
  s.slots.zipIdx.foldl (fun effect (slot, i) =>
    if effect.session.isLoose i slot then
      let next := effect.session.adopt i slot.connection.dispose
      { next with told := effect.told ++ next.told }
    else effect) { session := s, result := () }

/-- A handler that may still be told something. -/
def isAlive (s : Session) (handler : Nat) : Bool :=
  s.slots.any fun slot =>
    (slot.connection.correlator.pending.any fun entry => entry.2.number == handler) ||
      match slot.connection.phase with
      | .inReply _ (some h) _ => h.number == handler
      | _ => false

end Session

end DocumentLink
