import DocumentLink.Bson.Encode
import DocumentLink.Text.Quoted

/-! What can go wrong, by cause, and the one wording of each cause. -/

namespace DocumentLink

/-- What a byte stream reports. -/
inductive IoError where
  /-- The stream ended before all the bytes asked for had come. -/
  | unexpectedEnd
  | connectionReset
  | brokenPipe
  | connectionRefused
  | networkUnreachable
  /-- A bound of no time at all was set on writes. -/
  | zeroTimeout
  /-- Any other report, in the words of the system. -/
  | other (text : String)
  deriving DecidableEq

def IoError.message : IoError → String
  | unexpectedEnd => "failed to fill whole buffer"
  | connectionReset => "connection reset"
  | brokenPipe => "Broken pipe (os error 32)"
  | connectionRefused => "Connection refused (os error 111)"
  | networkUnreachable => "Network is unreachable (os error 101)"
  | zeroTimeout => "cannot set a 0 duration timeout"
  | other text => text

/-- How a stream of replies breaks its format.  Declared numbers are signed as they stand on the
wire; counted ones are not. -/
inductive ProtocolError where
  | unexpectedOpcode (opcode : Int32)
  | messageTooShort (length : Int32)
  | messageTooLarge (length : Int32) (max : Nat)
  | negativeDocumentCount (count : Int32)
  | documentTooShort (length : Int32)
  | documentOverrun (length : Int32) (remaining : Nat)
  | lengthMismatch (declared consumed : Nat)
  deriving DecidableEq

def ProtocolError.message : ProtocolError → String
  | unexpectedOpcode opcode =>
    "got opcode " ++ toString opcode.toInt ++ " where a reply was expected, corrupted stream?"
  | messageTooShort length =>
    "reply of " ++ toString length.toInt ++ " bytes is shorter than its fixed fields"
  | messageTooLarge length max =>
    "reply of " ++ toString length.toInt ++ " bytes exceeds the " ++ toString max ++ " byte limit"
  | negativeDocumentCount count => "reply declares " ++ toString count.toInt ++ " documents"
  | documentTooShort length =>
    "document of " ++ toString length.toInt ++ " bytes is shorter than an empty document"
  | documentOverrun length remaining =>
    "document of " ++ toString length.toInt ++ " bytes overruns the " ++ toString remaining ++
      " bytes left in the reply"
  | lengthMismatch declared consumed =>
    "reply declared " ++ toString declared ++ " bytes but its documents span " ++
      toString consumed

/-- Why nothing more can be had from a stream of replies. -/
inductive TransportError where
  | protocol (e : ProtocolError)
  | io (e : IoError)
  deriving DecidableEq

def TransportError.message : TransportError → String
  | protocol e => "protocol violation: " ++ e.message
  | io e => "Transport IO Error: " ++ e.message

/-- Why a connection cannot change hands as asked. -/
inductive LifecycleError where
  | alreadyAcquired (owner : String)
  | notAcquired
  deriving DecidableEq

def LifecycleError.message : LifecycleError → String
  | alreadyAcquired owner => "attempting to reacquire a socket owned by " ++ owner
  | notAcquired => "socket is not attached to a pool entry"

/-- A connection is gone, and why; nothing sent on it will be answered. -/
structure ConnectionLost where
  address : String
  reason : String
  deriving DecidableEq

def ConnectionLost.message (e : ConnectionLost) : String :=
  "connection to " ++ e.address ++ " lost: " ++ e.reason

/-- The fields by name, with quoted texts. -/
def ConnectionLost.describe (e : ConnectionLost) : String :=
  "ConnectionLost \x7b address: " ++ Text.quoted e.address ++ ", reason: " ++
    Text.quoted e.reason ++ " \x7d"

def Bson.EncodeError.message : Bson.EncodeError → String
  | notDocument kind =>
    "attempted to encode a non-document type at the top level: " ++ kind.name
  | embeddedZero text => "cstrings cannot contain null bytes: " ++ Text.quoted text
  | unsignedTooLarge n =>
    "BSON does not support unsigned integers.\n                 An attempt to serialize the " ++
      "value: " ++ toString n.toNat ++ " in a signed type failed due to the value's size."
  | refused text => text

/-- Why a document cannot be written or read. -/
inductive DocumentError where
  | encode (e : Bson.EncodeError)
  | decode
  deriving DecidableEq

def DocumentError.message : DocumentError → String
  | encode e => "failed to encode document: " ++ e.message
  | decode => "failed to decode document"

/-- Why a request on a connection has no reply. -/
inductive RequestError where
  | document (e : DocumentError)
  | transport (e : TransportError)
  | lifecycle (e : LifecycleError)
  | lost (e : ConnectionLost)
  /-- The handler went away before the request was answered; the connection may be fine. -/
  | abandoned
  deriving DecidableEq

namespace RequestError

def message : RequestError → String
  | document e => e.message
  | transport e => e.message
  | lifecycle e => e.message
  | lost e => e.message
  | abandoned => "reply handler dropped before the request was answered"

/-- The connection itself is to blame. -/
def isConnectionLost : RequestError → Bool
  | lost _ => true
  | _ => false

end RequestError

end DocumentLink
