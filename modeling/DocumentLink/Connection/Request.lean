import DocumentLink.Connection.State

/-! Sending requests.  A batch is encoded, each of its messages that waits for a reply is given an
id, and the whole is written at once. -/

namespace DocumentLink.Connection

variable {P H : Type}

/-- Gives the waiting messages of a batch their ids: the ids, the correlator that knows them and
the bytes that carry them. -/
def stamp (correlator : Correlator H) (bytes : Bytes) :
    List (Nat × H) → List UInt32 × Correlator H × Bytes
  | [] => ([], correlator, bytes)
  | (position, handler) :: rest =>
    let (id, correlator) := correlator.register handler
    let bytes := bytes.patch (position + Message.requestIdAt) (Bytes.ofUInt32 id)
    let (ids, correlator, bytes) := stamp correlator bytes rest
    (id :: ids, correlator, bytes)

/-- Takes the handlers of several ids out, in order. -/
def takeAll (correlator : Correlator H) : List UInt32 → List H × Correlator H
  | [] => ([], correlator)
  | id :: rest =>
    let (handler, correlator) := correlator.take id
    let (handlers, correlator) := takeAll correlator rest
    (handler.toList ++ handlers, correlator)

/-- Sends operations as one batch.  If a document cannot be encoded nothing happens at all; on a
closed connection, and when the write fails, every handler of the batch learns that the
connection is lost. -/
def query (c : Connection P H) (ops : List (Operation H)) :
    Reaction P H (Except RequestError Unit) :=
  match Batch.encode [] ops with
  | .error e => { connection := c, result := .error (.document (.encode e)) }
  | .ok batch =>
    match c.closed with
    | some lost =>
      { connection := c
        told := batch.awaiting.map fun (_, handler) => (handler, .lost lost)
        result := .error (.lost lost) }
    | none =>
      let (ids, correlator, bytes) := stamp c.correlator batch.bytes batch.awaiting
      let (sent, failure, outbound) := c.outbound.write bytes
      match failure with
      | none => { connection := { c with correlator, outbound }, sent, result := .ok () }
      | some e =>
        let (unsent, correlator) := takeAll correlator ids
        let lost : ConnectionLost := ⟨c.address, "write failed: " ++ e.message⟩
        let torn := fail { c with correlator, outbound } lost.reason
        { connection := torn.connection
          told := unsent.map (·, .lost lost) ++ torn.told
          sent
          result := .error (.transport (.io e)) }

end DocumentLink.Connection
