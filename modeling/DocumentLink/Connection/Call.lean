import DocumentLink.Connection.Lifecycle

/-! The calls that decide who holds a connection, as they work on its state in place.  Some take the
state out, which leaves a connection behind that is with nobody, until they put something back. -/

namespace DocumentLink.Lifecycle

variable {P : Type}

/-- A call of a client on a connection. -/
inductive Call (P : Type) where
  | tryAcquired (pool : P)
  /-- Takes it for granted that nobody holds the connection. -/
  | acquired (pool : P)
  | reserve
  /-- Without `force` the client is done with the connection; with it, the connection goes back
  whether it is pinned or not. -/
  | release (force : Bool)

/-- Takes the state out. -/
def take : StateM (Lifecycle P) (Lifecycle P) := modifyGet fun l => (l, idle)

def acquiring [PoolEntry P] (pool : P) : StateM (Lifecycle P) (Except LifecycleError Unit) := do
  match ← get with
  | idle =>
    set (acquired pool)
    return .ok ()
  | acquired owner | reserved owner =>
    return .error (.alreadyAcquired (PoolEntry.address owner))

def reserving : StateM (Lifecycle P) (Except LifecycleError Unit) := do
  match ← take with
  | idle => return .error .notAcquired
  | acquired owner | reserved owner =>
    set (reserved owner)
    return .ok ()

/-- The result says to whom the connection goes, if to anybody. -/
def releasing (force : Bool) : StateM (Lifecycle P) (Except LifecycleError (Option P)) := do
  match ← take with
  | idle => return .error .notAcquired
  | acquired owner => return .ok (some owner)
  | reserved owner =>
    if force then
      return .ok (some owner)
    else
      set (reserved owner)
      return .ok none

/-- Carries a call out.  The result says to whom the connection goes back, if to anybody. -/
def Call.perform [PoolEntry P] :
    Call P → StateM (Lifecycle P) (Except LifecycleError (Option P))
  | tryAcquired pool | acquired pool => do
    let result ← acquiring pool
    return result.map fun () => none
  | reserve => do
    let result ← reserving
    return result.map fun () => none
  | release force => releasing force

end DocumentLink.Lifecycle
