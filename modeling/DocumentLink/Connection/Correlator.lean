/-! Request ids and the handlers that wait on them.  Ids come from a 32-bit counter that wraps.
Zero marks a message that expects no reply, so it is never given out, and neither is an id whose
request is still in flight. -/

namespace DocumentLink

structure Correlator (H : Type) where
  /-- The id given out last. -/
  lastId : UInt32 := 0
  /-- The ids in flight and their handlers, oldest first. -/
  pending : List (UInt32 × H) := []

namespace Correlator

variable {H : Type}

/-- An id that can be given out. -/
def isFree (c : Correlator H) (id : UInt32) : Bool :=
  id != 0 && c.pending.all fun entry => entry.1 != id

/-- The first free id among the `n` that follow `id`, and the last of these if none is free. -/
def search (c : Correlator H) : Nat → UInt32 → UInt32
  | 0, id => id
  | n + 1, id => if c.isFree (id + 1) then id + 1 else c.search n (id + 1)

/-- The first free id after the one given out last.  Of any `pending.length + 2` ids in a row one
is free, since those in flight and zero are fewer. -/
def nextId (c : Correlator H) : UInt32 := c.search (c.pending.length + 2) c.lastId

/-- Gives out an id and keeps the handler under it. -/
def register (c : Correlator H) (handler : H) : UInt32 × Correlator H :=
  (c.nextId, { lastId := c.nextId, pending := c.pending ++ [(c.nextId, handler)] })

/-- Takes the handler of an id out, if it is there. -/
def take (c : Correlator H) (id : UInt32) : Option H × Correlator H :=
  (c.pending.lookup id, { c with pending := c.pending.filter fun entry => entry.1 != id })

/-- Takes every handler out. -/
def drain (c : Correlator H) : List (UInt32 × H) × Correlator H :=
  (c.pending, { c with pending := [] })

/-- The counter and the number of handlers, by name. -/
def describe (c : Correlator H) : String :=
  "Correlator \x7b last_id: " ++ toString c.lastId.toNat ++ ", pending: " ++
    toString c.pending.length ++ " \x7d"

end Correlator

end DocumentLink
