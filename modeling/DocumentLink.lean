import DocumentLink.Bson.Decode
import DocumentLink.Bson.Encode
import DocumentLink.Bson.Text
import DocumentLink.Bson.Value
import DocumentLink.Bytes
import DocumentLink.Config
import DocumentLink.Connection.Call
import DocumentLink.Connection.Correlator
import DocumentLink.Connection.Lifecycle
import DocumentLink.Connection.Reading
import DocumentLink.Connection.Request
import DocumentLink.Connection.State
import DocumentLink.Error
import DocumentLink.Field
import DocumentLink.Main
import DocumentLink.Message.Assembly
import DocumentLink.Message.Buffer
import DocumentLink.Message.Editing
import DocumentLink.Message.Header
import DocumentLink.Message.Operation
import DocumentLink.Probe.Arguments
import DocumentLink.Probe.Report
import DocumentLink.Probe.Run
import DocumentLink.Proofs.Bson.Canonical
import DocumentLink.Proofs.Bson.Fault
import DocumentLink.Proofs.Bson.Normal
import DocumentLink.Proofs.Bson.RoundTrip
import DocumentLink.Proofs.Bson.Writing
import DocumentLink.Proofs.Bytes
import DocumentLink.Proofs.Connection.Arrival
import DocumentLink.Proofs.Connection.Closure
import DocumentLink.Proofs.Connection.Coherent
import DocumentLink.Proofs.Connection.Collecting
import DocumentLink.Proofs.Connection.Correlator
import DocumentLink.Proofs.Connection.Dispatch
import DocumentLink.Proofs.Connection.Holding
import DocumentLink.Proofs.Connection.Interleaving
import DocumentLink.Proofs.Connection.Keeping
import DocumentLink.Proofs.Connection.Reasons
import DocumentLink.Proofs.Connection.Refusal
import DocumentLink.Proofs.Connection.Reissue
import DocumentLink.Proofs.Connection.Resolution
import DocumentLink.Proofs.Connection.Routing
import DocumentLink.Proofs.Connection.Run
import DocumentLink.Proofs.Connection.Seeking
import DocumentLink.Proofs.Connection.Sending
import DocumentLink.Proofs.Connection.Story
import DocumentLink.Proofs.Connection.WriteFailure
import DocumentLink.Proofs.Counted
import DocumentLink.Proofs.Delimited
import DocumentLink.Proofs.Log
import DocumentLink.Proofs.Message.Assembly
import DocumentLink.Proofs.Message.Editing
import DocumentLink.Proofs.Message.Fault
import DocumentLink.Proofs.Message.Layout
import DocumentLink.Proofs.Message.Received
import DocumentLink.Proofs.Outcome
import DocumentLink.Proofs.Probe.CommandLine
import DocumentLink.Proofs.Probe.Sending
import DocumentLink.Proofs.Reply.Frame
import DocumentLink.Proofs.Reply.Grammar
import DocumentLink.Proofs.Reply.Handover
import DocumentLink.Proofs.Reply.Reader
import DocumentLink.Proofs.Reply.Scratch
import DocumentLink.Proofs.Session.Acquiring
import DocumentLink.Proofs.Session.Cache
import DocumentLink.Proofs.Session.Custody
import DocumentLink.Proofs.Session.Lending
import DocumentLink.Proofs.Session.Run
import DocumentLink.Proofs.Session.Settling
import DocumentLink.Reply.Collector
import DocumentLink.Reply.Frame
import DocumentLink.Reply.Header
import DocumentLink.Reply.Reader
import DocumentLink.Reply.Scratch
import DocumentLink.Reply.Source
import DocumentLink.Session.Action
import DocumentLink.Session.Report
import DocumentLink.Session.State
import DocumentLink.Text.Base64
import DocumentLink.Text.Calendar
import DocumentLink.Text.Decimal
import DocumentLink.Text.Invisible
import DocumentLink.Text.Quoted
