import DocumentLink.Reply.Collector

/-! A collector and its client, who may wait for the reply, as two parties with a channel between
them.  The collector uses its end of the channel up with the first outcome that it sends.  The
client waits until there is an outcome or nobody is left who could send one.  Either party can go
away, and what the other one does goes on. -/

namespace DocumentLink

/-- A channel and the two ends of it that there are. -/
structure Channel (α : Type) where
  /-- What has been sent and not been received. -/
  queue : List α := []
  sender : Bool := true
  receiver : Bool := true

namespace Channel

variable {α : Type}

/-- Sends a message, which comes back if nobody can receive it. -/
def send (channel : Channel α) (message : α) : Except α Unit × Channel α :=
  if channel.receiver then (.ok (), { channel with queue := channel.queue ++ [message] })
  else (.error message, channel)

/-- Receives the message that was sent first, or learns that there will be none.  There is no result
as long as one may still come. -/
def receive? (channel : Channel α) : Option (Option α × Channel α) :=
  match channel.queue with
  | message :: rest => some (some message, { channel with queue := rest })
  | [] => if channel.sender then none else some (none, channel)

def dropSender (channel : Channel α) : Channel α := { channel with sender := false }

/-- What has not been received goes with the receiving end. -/
def dropReceiver (channel : Channel α) : Channel α :=
  { channel with receiver := false, queue := [] }

end Channel

/-- Where the client stands. -/
inductive Client where
  /-- Can wait, and has not begun to. -/
  | ready
  | waiting
  /-- Has waited, and got a result. -/
  | told (result : Except RequestError Reply)
  /-- Went away without waiting. -/
  | gone

structure Handover where
  /-- The documents so far. -/
  documents : List Bytes := []
  /-- The collector is still there. -/
  collecting : Bool := true
  /-- The sending end is the collector's, the receiving end the client's. -/
  channel : Channel (Except RequestError Reply) := {}
  client : Client := .ready

namespace Handover

inductive Event where
  /-- The collector is told something. -/
  | tell (notice : Notice)
  /-- The collector goes away. -/
  | drop
  | wait
  /-- The client that waits goes on. -/
  | receive
  /-- The client goes away. -/
  | giveUp

/-- Sends an outcome, if the collector still has its end of the channel, and drops that end.  That
the client may have gone away makes no difference. -/
def resolve (h : Handover) (outcome : Except RequestError Reply) : Handover :=
  if h.channel.sender then
    let (_, channel) := h.channel.send outcome
    { h with channel := channel.dropSender }
  else h

def tell (h : Handover) : Notice → Handover
  | .document _ _ data => { h with documents := h.documents ++ [data] }
  | .complete header => { h with documents := [] }.resolve (.ok ⟨header, h.documents⟩)
  | .lost e => h.resolve (.error (.lost e))

/-- What an event leaves, if it can happen. -/
def step (h : Handover) : Event → Option Handover
  | .tell notice => if h.collecting then some (h.tell notice) else none
  | .drop =>
    if h.collecting then some { h with collecting := false, channel := h.channel.dropSender }
    else none
  | .wait =>
    match h.client with
    | .ready => some { h with client := .waiting }
    | _ => none
  | .receive =>
    match h.client with
    | .waiting => do
      let (outcome, channel) ← h.channel.receive?
      some { h with
        channel := channel.dropReceiver, client := .told (outcome.getD (.error .abandoned)) }
    | _ => none
  | .giveUp =>
    match h.client with
    | .ready => some { h with channel := h.channel.dropReceiver, client := .gone }
    | _ => none

end Handover

end DocumentLink
