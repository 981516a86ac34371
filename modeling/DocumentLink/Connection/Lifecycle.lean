import DocumentLink.Error

/-! Who holds a connection.  A pool hands it out and gets it back; in between it can be pinned,
and then it goes back only on an explicit request. -/

namespace DocumentLink

/-- Something that hands connections out, known in diagnostics by a label. -/
class PoolEntry (P : Type) where
  address : P → String

inductive Lifecycle (P : Type) where
  /-- In a pool's cache, or with nobody. -/
  | idle
  | acquired (owner : P)
  /-- Held and pinned. -/
  | reserved (owner : P)

namespace Lifecycle

variable {P : Type}

def owner? : Lifecycle P → Option P
  | idle => none
  | acquired owner => some owner
  | reserved owner => some owner

def isAcquired (l : Lifecycle P) : Bool := l.owner?.isSome

def isReserved : Lifecycle P → Bool
  | reserved _ => true
  | _ => false

/-- Hands the connection out.  Nobody can take it from its owner. -/
def acquire [PoolEntry P] (l : Lifecycle P) (pool : P) : Except LifecycleError (Lifecycle P) :=
  match l.owner? with
  | none => .ok (acquired pool)
  | some owner => .error (.alreadyAcquired (PoolEntry.address owner))

def reserve (l : Lifecycle P) : Except LifecycleError (Lifecycle P) :=
  match l.owner? with
  | none => .error .notAcquired
  | some owner => .ok (reserved owner)

/-- Gives the connection up, and says to whom it goes.  A pinned one stays, unless `force` is
set. -/
def release (l : Lifecycle P) (force : Bool) : Except LifecycleError (Option P × Lifecycle P) :=
  match l with
  | idle => .error .notAcquired
  | acquired owner => .ok (some owner, idle)
  | reserved owner => if force then .ok (some owner, idle) else .ok (none, reserved owner)

def describe [PoolEntry P] : Lifecycle P → String
  | idle => "Idle"
  | acquired owner => "Acquired(" ++ PoolEntry.address owner ++ ")"
  | reserved owner => "Reserved(" ++ PoolEntry.address owner ++ ")"

end Lifecycle

end DocumentLink
