import Docket.Program
import Docket.Service.Wire
import Std.Async.DNS
import Std.Async.TCP
/-!
The command line. Requests go out over plain connections; an address that asks for a secure one is
reported as unavailable.
-/

namespace Docket.Main

open Std.Async
open Std.Net (IPAddr IPv4Addr IPv6Addr SocketAddress)

def programName : String := "docket"

def settingsFile : String := ".docket.toml"

def fixedAddress? : Url.Host → Option IPAddr
  | .ipv4 a =>
    let byte (n : Nat) : UInt8 := UInt8.ofNat (a >>> (8 * n) % 256)
    some (.v4 (.ofParts (byte 3) (byte 2) (byte 1) (byte 0)))
  | .ipv6 gs =>
    match gs.map UInt16.ofNat with
    | [a, b, c, d, e, f, g, h] => some (.v6 (.ofParts a b c d e f g h))
    | _ => none
  | .domain _ => none

def address (host : Url.Host) : IO IPAddr := do
  match fixedAddress? host with
  | some a => return a
  | none =>
    match (← (DNS.getAddrInfo host.write "" none).block)[0]? with
    | some a => return a
    | none => throw (IO.userError "unknown host")

def socketAddress (a : IPAddr) (port : UInt16) : SocketAddress :=
  match a with
  | .v4 a => .v4 ⟨a, port⟩
  | .v6 a => .v6 ⟨a, port⟩

partial def receive (client : TCP.Socket.Client) (got : ByteArray) : IO ByteArray := do
  match ← (client.recv? 65536).block with
  | some more => receive client (got ++ more)
  | none => return got

def exchange (job : Job) (r : Service.Request) : IO Service.Answer := do
  let url := job.endpoint.url
  match url.scheme, url.authority, url.host? with
  | "http", some authority, some host =>
    try
      let port := UInt16.ofNat (authority.port.getD 80)
      let client ← TCP.Socket.Client.mk
      (client.connect (socketAddress (← address host) port)).block
      let text := Service.Wire.writeRequest authority.writeHost job.authorization r
      (client.send text.toUTF8).block
      let bytes ← receive client .empty
      return (Service.Wire.readReply? bytes.toList).getD (.unavailable "unreadable reply")
    catch e => return .unavailable (toString e)
  | _, _, _ => return .unavailable "secure connections are not supported"

def now : IO Calendar.Instant := do
  let t ← Std.Time.Timestamp.now
  return ⟨t.toSecondsSinceUnixEpoch.val, 0⟩

def surroundings (arguments : List String) : IO Program.Surroundings := do
  let names := "GITHUB_TOKEN" :: Settings.Field.all.map (Settings.variableName programName)
  let environment ← names.filterMapM fun n => return (← IO.getEnv n).map fun v => (n, v)
  let file ← try some <$> IO.FS.readFile settingsFile catch _ => pure none
  return ⟨programName, arguments, fun n => environment.lookup n, file⟩

/-- Prints the output; a summary that cannot be printed is a failure of its own. -/
def finish (o : Output) : IO UInt32 := do
  let o ← try
      (← IO.getStdout).putStr o.out
      pure o
    catch e => pure (.ofResult (← now) (.error (.io (toString e))))
  (← IO.getStderr).putStr o.err
  return if o.success then 0 else 1

partial def serve (loaded : Except Failure Settings) (fallback : Option String)
    (answers : List Service.Answer) : IO Output := do
  match Program.run loaded fallback (← now) answers with
  | some output => return output
  | none =>
    let requests := (Program.converse loaded fallback answers).requests
    match Program.job loaded fallback, requests.getLast? with
    | .ok job, some r => serve loaded fallback (answers ++ [← exchange job r])
    | _, _ => throw (IO.userError "no request to send")

def run (arguments : List String) : IO UInt32 := do
  let s ← surroundings arguments
  finish (← serve s.settings s.sharedToken [])

end Docket.Main

def main (arguments : List String) : IO UInt32 := Docket.Main.run arguments
