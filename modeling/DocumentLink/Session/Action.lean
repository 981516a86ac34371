import DocumentLink.Session.State

/-! What a client and its server can do in a session, step by step. -/

namespace DocumentLink

/-- One step of a session.  Sockets and caches are meant by their number. -/
inductive Action where
  | connect (pool : Pool)
  /-- Takes over a connection that was established elsewhere. -/
  | wrap (pool : Pool)
  | acquire (cache : Nat := 0)
  | query (socket : Nat) (ops : List (Operation (String × HandlerKind)))
  /-- The server sends bytes, and with `hangup` ends its side of the stream. -/
  | send (socket : Nat) (bytes : Bytes) (hangup : Bool)
  | reserve (socket : Nat)
  | release (socket : Nat) (force : Bool)
  /-- Hands a socket to a pool without giving it up. -/
  | giveBack (socket : Nat) (pool : Pool)
  | tryAcquired (socket : Nat) (pool : Pool)
  /-- Takes it for granted that nobody holds the connection. -/
  | acquired (socket : Nat) (pool : Pool)
  | close (socket : Nat)
  | address (socket : Nat)
  | describe (socket : Nat)
  /-- From now on the client's writes fail. -/
  | shutdownWrite (socket : Nat)
  | drop (socket : Nat)
  | wait (label : String)
  | giveUp (label : String)
  | stopListening

inductive Answer where
  | done
  | socket (number : Nat) (isNew : Bool)
  /-- The messages that reached the server. -/
  | sent (messages : List Bytes)
  | text (s : String)
  | reply (reply : Reply)
  | failed (e : RequestError)
  | refused (e : LifecycleError)
  /-- What was taken for granted does not hold. -/
  | broken (e : LifecycleError)
  /-- There is no such socket or waiter. -/
  | unknown
  /-- The reply has not come. -/
  | timeout

namespace Session

/-- Remembers a counting pool. -/
def mention (s : Session) : Pool → Session
  | .cache .. => s
  | .counter label =>
    if s.recycled.any (·.1 == label) then s
    else { s with recycled := s.recycled ++ [(label, 0)] }

/-- A fresh connection, attached to `pool`, gets the next number. -/
def opens (s : Session) (pool : Pool) : Session :=
  { s with
    slots := s.slots ++ [{ connection := .opened s.address s.config.maxMessageSize pool }] }

/-- Takes a connection over that has been established. -/
def establish (s : Session) (pool : Pool) : Session × Answer :=
  if s.config.writeTimeout = some 0 then (s, .failed (.transport (.io .zeroTimeout)))
  else (s.opens pool, .socket s.slots.length true)

def connect (s : Session) (pool : Pool) : Session × Answer :=
  match s.network.connect with
  | .error e => (s, .failed (.transport (.io e)))
  | .ok () => s.establish pool

def isClosedAt (s : Session) (i : Nat) : Bool :=
  match s.slots[i]? with
  | some slot => slot.connection.isClosed
  | none => true

/-- Hands out the connection of cache `number` that was released last, or opens a new one.  Cached
connections that have been closed meanwhile are given up on the way. -/
def acquire (s : Session) (number : Nat) : Session × Answer :=
  let pool : Pool := .cache s.address number
  match (s.cached number).dropWhile s.isClosedAt with
  | [] => (s.setCached number []).connect pool
  | i :: rest =>
    let s := s.setCached number rest
    match s.slots[i]? with
    | none => (s, .unknown)
    | some slot =>
      match slot.connection.lifecycle.acquire pool with
      | .error e => (s, .failed (.lifecycle e))
      | .ok lifecycle => ((s.setLifecycle i lifecycle).setHeld i true, .socket i false)

/-- Connection `i` comes back to a pool.  A cache takes open connections only. -/
def takeBack (s : Session) (i : Nat) : Pool → Session
  | .cache _ number =>
    if s.isClosedAt i then s else { s with idle := (number, i) :: s.idle }
  | .counter label =>
    let s := s.mention (.counter label)
    { s with recycled := s.recycled.map fun (l, n) => if l = label then (l, n + 1) else (l, n) }

/-- Attaches connection `i` to a pool, if nobody holds it; `refuse` words the other case. -/
def claim (s : Session) (i : Nat) (c : Connection Pool Handler) (pool : Pool)
    (refuse : LifecycleError → Answer) : Session × Answer :=
  let s := s.mention pool
  match c.lifecycle.acquire pool with
  | .error e => (s, refuse e)
  | .ok lifecycle => (s.setLifecycle i lifecycle, .done)

def reserve (s : Session) (i : Nat) (c : Connection Pool Handler) : Session × Answer :=
  match c.lifecycle.reserve with
  | .error e => (s, .refused e)
  | .ok lifecycle => (s.setLifecycle i lifecycle, .done)

def release (s : Session) (i : Nat) (c : Connection Pool Handler) (force : Bool) :
    Session × Answer :=
  match c.lifecycle.release force with
  | .error e => (s, .refused e)
  | .ok (owner, lifecycle) =>
    let s := s.setLifecycle i lifecycle
    (owner.elim s (s.takeBack i), .done)

/-- Numbers the handlers of a batch, the first one `next`. -/
def numbered (next : Nat) :
    List (Operation (String × HandlerKind)) → List (Operation Handler) × List Handler
  | [] => ([], [])
  | .insert op :: rest =>
    let (ops, handlers) := numbered next rest
    (.insert op :: ops, handlers)
  | .query op :: rest =>
    match op.handler with
    | none =>
      let (ops, handlers) := numbered next rest
      (.query { op with handler := none } :: ops, handlers)
    | some (label, kind) =>
      let handler : Handler := ⟨next, label, kind⟩
      let (ops, handlers) := numbered (next + 1) rest
      (.query { op with handler := some handler } :: ops, handler :: handlers)

/-- Remembers the replies that the handlers of a batch gather.  A label stands for the reply it
was given to last. -/
def expect (s : Session) (handlers : List Handler) : Session :=
  let waiters := handlers.foldl (fun waiters h =>
    if h.kind = .collector then
      waiters.filter (fun w => w.label != h.label) ++ [{ label := h.label, handler := h.number }]
    else waiters) s.waiters
  { s with waiters, handlers := s.handlers + handlers.length }

def query (s : Session) (i : Nat) (c : Connection Pool Handler)
    (ops : List (Operation (String × HandlerKind))) : Effect Answer :=
  let (ops, handlers) := numbered s.handlers ops
  let r := c.query ops
  let effect := (s.expect handlers).adopt i r
  let answer := match r.result with
    | .ok () => .sent (Message.cut r.sent).1
    | .error e => .failed e
  { effect with result := answer }

/-- The reply under a label, which is then forgotten. -/
def wait (s : Session) (label : String) : Session × Answer :=
  match s.waiters.find? fun w => w.label == label with
  | none => (s, .unknown)
  | some w =>
    let forgotten := { s with waiters := s.waiters.filter fun v => v.label != label }
    if w.collector.outcome.isNone && s.isAlive w.handler then (forgotten, .timeout)
    else
      match w.collector.wait with
      | .ok reply => (forgotten, .reply reply)
      | .error e => (forgotten, .failed e)

/-- An operation on a connection that the client has a handle on. -/
def onHeld (s : Session) (i : Nat) (f : Connection Pool Handler → Effect Answer) :
    Effect Answer :=
  match s.held? i with
  | none => { session := s, result := .unknown }
  | some c => f c

/-- An operation that tells nobody anything. -/
def quiet (r : Session × Answer) : Effect Answer := { session := r.1, result := r.2 }

/-- What an action does by itself.  There is nothing to take over where nobody listens. -/
def perform (s : Session) : Action → Option (Effect Answer)
  | .connect pool => some (quiet ((s.mention pool).connect pool))
  | .wrap pool =>
    if s.network = .listening then some (quiet ((s.mention pool).establish pool)) else none
  | .acquire cache => some (quiet (s.acquire cache))
  | .query i ops => some (s.onHeld i fun c => s.query i c ops)
  | .send i bytes hangup =>
    match s.slots[i]? with
    | none => some { session := s, result := .unknown }
    | some slot =>
      let ending := if hangup then .ended else .live
      let effect := s.adopt i (slot.connection.receive bytes ending)
      some { effect with result := .done }
  | .reserve i => some <| s.onHeld i fun c => quiet (s.reserve i c)
  | .release i force => some <| s.onHeld i fun c => quiet (s.release i c force)
  | .giveBack i pool => some <| s.onHeld i fun _ => quiet (s.takeBack i pool, .done)
  | .tryAcquired i pool => some <| s.onHeld i fun c => quiet (s.claim i c pool .refused)
  | .acquired i pool => some <| s.onHeld i fun c => quiet (s.claim i c pool .broken)
  | .close i => some <| s.onHeld i fun c => { s.adopt i c.close with result := .done }
  | .address i => some <| s.onHeld i fun c => quiet (s, .text c.address)
  | .describe i => some <| s.onHeld i fun c => quiet (s, .text c.describe)
  | .shutdownWrite i => some <| s.onHeld i fun c => quiet
    (s.setConnection i { c with outbound := ⟨some (0, .brokenPipe)⟩ }, .done)
  | .drop i => some <| s.onHeld i fun _ => quiet (s.setHeld i false, .done)
  | .wait label => some (quiet (s.wait label))
  | .giveUp label =>
    some (quiet ({ s with waiters := s.waiters.filter fun w => w.label != label }, .done))
  | .stopListening =>
    let network := if s.network = .listening then .refusing else s.network
    some (quiet ({ s with network }, .done))

/-- One action, after which connections that nothing refers to are disposed of. -/
def step (s : Session) (action : Action) : Option (Effect Answer) :=
  (s.perform action).map fun effect =>
    let swept := effect.session.sweep
    { session := swept.session, told := effect.told ++ swept.told, result := effect.result }

end Session

end DocumentLink
