import Deliberation.Chat.Backend
import Deliberation.CommandLine
import Deliberation.Run.Identity
import Deliberation.Time.Calendar
import Std.Async.DNS
import Std.Async.TCP
import Std.Async.Timer
/-! The program: it reads arguments and environment, does the job they state, and writes what is
shown. Connections are plain ones. A secure address counts as one where no answer comes. -/

namespace Deliberation.Program

open Std.Async

def now : IO Instant := do
  let time := (← Std.Time.Timestamp.now).toNanosecondsSinceUnixEpoch.val
  match Instant.ofEpoch? (time / 1000000000) (time % 1000000000).toNat with
  | some instant => return instant
  | none => throw (IO.userError "the time of the system has no date")

def environment : IO SettingSource := do
  let values ← Config.settingNames.mapM fun name => return (name, ← IO.getEnv name)
  return fun name => (values.lookup name).join

def report (log : Log) (notices : List Notice) : IO Unit := do
  IO.eprint (log.lines notices (← now))

/-- The milliseconds from now on that reach a deadline. -/
def millisecondsTo (deadline : Nat) : IO Nat := do
  return (deadline - (← IO.monoNanosNow) + Span.millisecond - 1) / Span.millisecond

def connectTo (service : UInt16) : List Std.Net.IPAddr → Async (Option TCP.Socket.Client)
  | [] => return none
  | host :: rest => do
    let client ← TCP.Socket.Client.mk
    try
      client.connect (match host with
        | .v4 addr => .v4 ⟨addr, service⟩
        | .v6 addr => .v6 ⟨addr, service⟩)
      return some client
    catch _ => connectTo service rest

/-- Reads an answer until it is complete, the connection ends, or the deadline is over. -/
partial def receive (client : TCP.Socket.Client) (deadline : Nat) (bytes : List UInt8) :
    Async Http.Exchange := do
  match Http.progress false bytes with
  | .complete answer => return .answered answer
  | .malformed => return .dropped
  | progress =>
    let timer ← Selector.sleep (.ofNat (← millisecondsTo deadline))
    let next : Option (Option ByteArray) ←
      try Selectable.one #[
        .case (client.recvSelector 65536) fun data => return some data,
        .case timer fun _ => return none]
      catch _ => pure (some none)
    match next with
    | none => return progress.exchange true
    | some none => return (Http.progress true bytes).exchange false
    | some (some data) => receive client deadline (bytes ++ data.toList)

def converse (request : Http.Request) (deadline : Nat) : Async Http.Exchange := do
  try
    let host := (request.url.host.map Host.bare).getD ""
    let service := request.url.serviceNumber
    let hosts ← DNS.getAddrInfo host (toString service.toNat)
    match ← connectTo service hosts.toList with
    | none => return .dropped
    | some client =>
      client.send request.text.toUTF8
      receive client deadline []
  catch _ => return .dropped

def send (request : Http.Request) (deadline : Nat) : IO Http.Exchange := do
  if request.url.scheme != "http" then return .dropped
  let timeOver : Async Http.Exchange := do
    sleep (.ofNat ((← millisecondsTo deadline) + 50))
    return .hung
  (Async.race (converse request deadline) timeOver).block

def surroundings (log : Log) (start : Nat) : Surroundings (ExceptT RunError IO) where
  elapsed := return (← IO.monoNanosNow) - start
  now := now
  tell notices := report log notices

def network (start : Nat) : Chat.Network (ExceptT RunError IO) where
  send deadline request := send request (start + deadline)
  wait deadline milliseconds := do
    IO.sleep (UInt32.ofNat (min milliseconds.toNat (← millisecondsTo (start + deadline))))

def perform : Job → IO UInt32
  | .display text => do
    IO.print text
    return 0
  | .run task settings catalog endpoint log json => do
    let sessionId := sessionIdOf (← IO.getRandomBytes 16).toList
    let session := Session.start settings catalog Keywords.standard.classify task sessionId (← now)
    let start ← IO.monoNanosNow
    let around := surroundings log start
    match ← (session.driveWith around (endpoint.invoke around (network start))).run with
    | .error e => return e.code
    | .ok run =>
      IO.print (run.outcome.report json (run.outcome.summary (← now)))
      return 0

def run (args : List String) : IO UInt32 := do
  match Job.of args (← environment) with
  | .ok job => perform job
  | .error refusal =>
    IO.eprint (refusal.message ++ "\n")
    return refusal.code

end Deliberation.Program

def main (args : List String) : IO UInt32 :=
  Deliberation.Program.run args
