import DocumentLink.Probe.Report
import DocumentLink.Probe.Run
import Std.Async.DNS
import Std.Async.TCP
import Std.Async.Timer

/-! The command: one query over TCP. -/

namespace DocumentLink.Probe

open Std.Async
open Std.Net

/-- The host and the port of an address, which are parted by its last colon. -/
def hostAndPort? (address : String) : Option (String × UInt16) := do
  let reversed := address.toList.reverse
  let port ← digits? (reversed.takeWhile (· != ':')).reverse
  if UInt16.size ≤ port then none
  else
    match reversed.dropWhile (· != ':') with
    | [] => none
    | _ :: host =>
      match host.reverse with
      | '[' :: rest => some (String.ofList rest.dropLast, UInt16.ofNat port)
      | host => some (String.ofList host, UInt16.ofNat port)

def socketAddress (host : IPAddr) (port : UInt16) : SocketAddress :=
  match host with
  | .v4 addr => .v4 ⟨addr, port⟩
  | .v6 addr => .v6 ⟨addr, port⟩

def showAddress : SocketAddress → String
  | .v4 a => a.addr.toString ++ ":" ++ toString a.port.toNat
  | .v6 a => "[" ++ a.addr.toString ++ "]:" ++ toString a.port.toNat

/-- Connects to the first of the hosts that takes the connection. -/
def dial (config : Config) (port : UInt16) : List IPAddr → IO TCP.Socket.Client
  | [] => throw (IO.userError "could not resolve to any addresses")
  | host :: rest => do
    try
      let socket ← TCP.Socket.Client.mk
      (socket.connect (socketAddress host port)).block
      if config.nodelay then socket.noDelay
      return socket
    catch e =>
      if rest.isEmpty then throw e else dial config port rest

def connect (a : Arguments) : IO TCP.Socket.Client := do
  match hostAndPort? a.address with
  | none => throw (IO.userError "invalid socket address")
  | some (host, port) =>
    let hosts ← (DNS.getAddrInfo host (toString port.toNat)).block
    dial a.config port hosts.toList

/-- Sends bytes, in the time that the arguments allow. -/
def send (a : Arguments) (socket : TCP.Socket.Client) (b : Bytes) : IO Unit := do
  let sending : Async Bool := do
    socket.send ⟨b.toArray⟩
    return true
  match a.config.writeTimeout with
  | none => discard sending.block
  | some milliseconds =>
    let waiting : Async Bool := do
      sleep (Std.Time.Millisecond.Offset.ofNat milliseconds)
      return false
    unless ← (sending.race waiting).block do
      throw (IO.userError "Resource temporarily unavailable (os error 11)")

/-- Reads until the outcome of the run is known. -/
partial def await (socket : TCP.Socket.Client) (run : Run) : IO (Except RequestError Reply) := do
  match run.outcome? with
  | some outcome => return outcome
  | none =>
    let run ←
      try
        match ← (socket.recv? 65536).block with
        | some data => pure (run.receive data.data.toList .live)
        | none => pure (run.receive [] .ended)
      catch e => pure (run.receive [] (.failing (.other (toString e))))
    await socket run

def perform (a : Arguments) : IO (Except RequestError Reply) := do
  try
    let socket ← connect a
    let peer ← socket.getPeerName
    match start a (showAddress peer) with
    | (_, .error e) => return .error e
    | (sent, .ok run) =>
      send a socket sent
      await socket run
  catch e => return .error (.transport (.io (.other (toString e))))

end DocumentLink.Probe

open DocumentLink.Probe in
def main (args : List String) : IO UInt32 := do
  match Arguments.ofList? args with
  | none =>
    IO.eprintln "usage: ADDRESS COLLECTION [OPTION]..."
    return usageExitCode
  | some a =>
    let report := Report.ofOutcome (← perform a)
    IO.print report.stdout
    IO.eprint report.stderr
    return report.exitCode
