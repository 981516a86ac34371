import DocumentLink.Bson.Text
import DocumentLink.Error
import DocumentLink.Reply.Collector

/-! What the command prints, and the code it exits with. -/

namespace DocumentLink.Probe

/-- Why a run fails. -/
inductive Failure where
  | request (e : RequestError)
  /-- A document of the reply cannot be read. -/
  | decode

/-- The name of the cause.  A lost connection is shown with its fields, anything else with its
wording. -/
def Failure.describe : Failure → String
  | request (.lost e) => "ConnectionLost(" ++ e.describe ++ ")"
  | request (.transport e) => "Transport(" ++ Text.quoted e.message ++ ")"
  | request (.document e) => "Document(" ++ Text.quoted e.message ++ ")"
  | request (.lifecycle e) => "Lifecycle(" ++ Text.quoted e.message ++ ")"
  | request .abandoned => "Abandoned"
  | decode => "Decode(" ++ Text.quoted DocumentError.decode.message ++ ")"

structure Report where
  /-- Lines of standard output. -/
  lines : List String := []
  /-- Lines of standard error. -/
  remarks : List String := []
  failure : Option Failure := none

namespace Report

/-- The report on a run that had the given outcome.  Nothing is printed of a reply unless all of
its documents can be read. -/
def ofOutcome : Except RequestError Reply → Report
  | .error e => { failure := some (.request e) }
  | .ok reply =>
    let failed := if reply.header.has .queryFailure then ["query failed"] else []
    match reply.decode? with
    | none => { remarks := failed, failure := some .decode }
    | some documents =>
      let more :=
        if reply.header.cursorId = 0 then []
        else ["more results on cursor " ++ toString reply.header.cursorId.toInt]
      { lines := documents.map Bson.Document.text, remarks := failed ++ more }

def exitCode (r : Report) : UInt32 := if r.failure.isSome then 1 else 0

def stdout (r : Report) : String := String.join (r.lines.map (· ++ "\n"))

def stderr (r : Report) : String :=
  let failure := r.failure.map fun f => "Error: " ++ f.describe
  String.join ((r.remarks ++ failure.toList).map (· ++ "\n"))

end Report

/-- The code of a run whose arguments are no proper command line. -/
def usageExitCode : UInt32 := 2

end DocumentLink.Probe
