import DocumentLink.Session.Action

/-! What of a session can be seen from outside: the state of every socket the client has a handle
on, and what its handlers report. -/

namespace DocumentLink

/-- A socket as its holder sees it. -/
structure SocketStatus where
  acquired : Bool
  reserved : Bool
  closed : Bool
  pending : Nat

def Connection.status {P H : Type} (c : Connection P H) : SocketStatus where
  acquired := c.lifecycle.isAcquired
  reserved := c.lifecycle.isReserved
  closed := c.isClosed
  pending := c.correlator.pending.length

namespace Session

/-- Every socket by number; none for one without a handle. -/
def statuses (s : Session) : List (Option SocketStatus) :=
  s.slots.map fun slot => if slot.held then some slot.connection.status else none

end Session

/-- Whether a handler reports what it is told. -/
def Handler.reports (h : Handler) : Notice → Bool
  | .document .. => h.kind != .collector
  | .complete _ | .lost _ => h.kind == .recorder

/-- What handlers report of what they are told.  Losses come last, by label, since they concern
all waiting handlers at once. -/
def reported (told : List (Handler × Notice)) : List (String × Notice) :=
  let isLoss : Notice → Bool
    | .lost _ => true
    | _ => false
  let events := (told.filter fun (h, notice) => h.reports notice).map fun (h, notice) =>
    (h.label, notice)
  let (losses, others) := events.partition fun (_, notice) => isLoss notice
  others ++ losses.mergeSort fun a b => decide (¬ b.1 < a.1)

end DocumentLink
