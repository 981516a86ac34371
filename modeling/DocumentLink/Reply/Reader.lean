import DocumentLink.Reply.Frame

/-! A reader under direct control: its caller asks for frames, and for the documents of any frame
read so far, in any order.  Each frame keeps its own count, and an error leaves every frame as it
was. -/

namespace DocumentLink

structure Reader where
  maxMessageSize : Nat
  source : Source
  /-- The frames read so far, in order. -/
  frames : List ReplyFrame := []

namespace Reader

/-- What a caller can ask for.  Without an index the latest frame is meant. -/
inductive Call where
  | frame
  | document (index : Option Nat)
  | finish (index : Option Nat)

inductive Answer where
  | frame (frame : ReplyFrame)
  | document (data : Bytes)
  | finished
  | failed (e : TransportError)
  /-- The documents of the frame do not fill it. -/
  | mismatch (e : ProtocolError)
  | noFrame
  | waiting

/-- The frame that is meant and its place, if there is one. -/
def frame? (r : Reader) (index : Option Nat) : Option (Nat × ReplyFrame) :=
  let i := index.getD (r.frames.length - 1)
  (r.frames[i]?).map (i, ·)

def call (r : Reader) : Call → Answer × Reader
  | .frame =>
    match ReplyFrame.read r.maxMessageSize r.source with
    | (.done frame, source) => (.frame frame, { r with source, frames := r.frames ++ [frame] })
    | (.failed e, source) => (.failed e, { r with source })
    | (.waiting, _) => (.waiting, r)
  | .document index =>
    match r.frame? index with
    | none => (.noFrame, r)
    | some (i, frame) =>
      match frame.readDocument r.source with
      | (.done (data, frame), source) =>
        (.document data, { r with source, frames := r.frames.set i frame })
      | (.failed e, source) => (.failed e, { r with source })
      | (.waiting, _) => (.waiting, r)
  | .finish index =>
    match r.frame? index with
    | none => (.noFrame, r)
    | some (_, frame) =>
      match frame.finish with
      | .ok () => (.finished, r)
      | .error e => (.mismatch e, r)

/-- The answers to a sequence of calls. -/
def run (r : Reader) : List Call → List Answer × Reader
  | [] => ([], r)
  | c :: rest =>
    let (answer, r) := r.call c
    let (answers, r) := r.run rest
    (answer :: answers, r)

end Reader

end DocumentLink
