import DocumentLink.Connection.Reading
import DocumentLink.Connection.Request
import DocumentLink.Probe.Arguments
import DocumentLink.Session.State

/-! One run of the command: connect, send an optional insert and a query in one write, and wait
for the reply. -/

namespace DocumentLink.Probe

/-- The document with the given fields; a repeated key keeps its first place and its last value. -/
def document (fields : List (String × String)) : List (String × String) :=
  Bson.Document.collapse fields

/-- A document all of whose values are texts. -/
def texts (fields : List (String × String)) : Bson.Value :=
  .document (fields.map fun (key, value) => (key, .string value))

namespace Arguments

def insertion (a : Arguments) : List (Operation Unit) :=
  if a.inserts.isEmpty then []
  else [.insert ⟨a.collection, [texts (document a.inserts)]⟩]

def query (a : Arguments) : Query Unit where
  collection := a.collection
  query := texts (document a.filters)
  skip := a.skip
  limit := a.limit
  flags := if a.slaveOk then QueryFlag.slaveOk.bit else 0
  handler := some ()

/-- What the command sends. -/
def operations (a : Arguments) : List (Operation Unit) := a.insertion ++ [.query a.query]

end Arguments

/-- A run that has sent its query. -/
structure Run where
  connection : Connection Pool Unit
  collector : Collector := {}

/-- Sends what there is to send over a connection to `peer` that has been established; the bytes
sent, and the run that waits for the reply. -/
def start (a : Arguments) (peer : String) : Bytes × Except RequestError Run :=
  if a.config.writeTimeout = some 0 then ([], .error (.transport (.io .zeroTimeout)))
  else
    let opened : Connection Pool Unit :=
      .opened peer a.config.maxMessageSize (.cache a.address)
    let r := opened.query a.operations
    (r.sent, r.result.map fun () => { connection := r.connection })

namespace Run

/-- Bytes of the server arrive, and perhaps the end of its side of the stream after them. -/
def receive (run : Run) (b : Bytes) (ending : Ending) : Run :=
  let r := run.connection.receive b ending
  { connection := r.connection
    collector := r.told.foldl (fun c (_, notice) => c.tell notice) run.collector }

/-- The reply, or why there is none, once that is known. -/
def outcome? (run : Run) : Option (Except RequestError Reply) :=
  run.collector.outcome.map fun _ => run.collector.wait

end Run

/-- A whole run against a server that answers the query with `reply`, and with `hangup` then ends
its side: the bytes sent, and the outcome, unless the run waits for ever. -/
def exchange (network : Network) (a : Arguments) (peer : String) (reply : Bytes) (hangup : Bool) :
    Bytes × Option (Except RequestError Reply) :=
  match network.connect with
  | .error e => ([], some (.error (.transport (.io e))))
  | .ok () =>
    match start a peer with
    | (sent, .error e) => (sent, some (.error e))
    | (sent, .ok run) => (sent, (run.receive reply (if hangup then .ended else .live)).outcome?)

end DocumentLink.Probe
