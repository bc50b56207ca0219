/-
Module: DashletBoard.Main
Purpose: The program: settings from the configuration file and the environment, and the service on the
  network.
Main exports: main
-/
import DashletBoard.BuildServer.Wire
import DashletBoard.Http.Wire
import DashletBoard.Startup
import Std.Async.DNS
import Std.Async.TCP
import Std.Internal.UV.System
import Std.Sync.Mutex

namespace DashletBoard.Program

open BuildServer Std.Async Std.Net

/-!
### Sockets
-/

/-- The host's number and port of the address, as sockets take them. -/
def socketAddress : Http.SocketAddress → SocketAddress
  | .short octets port =>
    let octet (i : Nat) : UInt8 := UInt8.ofNat (octets.getD i 0)
    .v4 ⟨.ofParts (octet 0) (octet 1) (octet 2) (octet 3), UInt16.ofNat port⟩
  | .long groups _ port =>
    let group (i : Nat) : UInt16 := UInt16.ofNat (groups.getD i 0)
    .v6 ⟨.ofParts (group 0) (group 1) (group 2) (group 3) (group 4) (group 5) (group 6) (group 7),
      UInt16.ofNat port⟩

/-- An address of a host at a port. -/
def hostAddress (port : Nat) : IPAddr → SocketAddress
  | .v4 address => .v4 ⟨address, UInt16.ofNat port⟩
  | .v6 address => .v6 ⟨address, UInt16.ofNat port⟩

/-- Receives bytes until the other side ends. -/
partial def receiveAll (socket : TCP.Socket.Client) (received : ByteArray) : IO ByteArray := do
  match ← (socket.recv? 65536).block with
  | some bytes => receiveAll socket (received ++ bytes)
  | none => return received

/-- Receives a request; none if there is none. -/
partial def receiveRequest (socket : TCP.Socket.Client) (received : ByteArray) :
    IO (Option Http.Request) := do
  match Http.Request.read received.toList with
  | .complete request => return some request
  | .refused => return none
  | .incomplete =>
    match ← (socket.recv? 65536).block with
    | some bytes => receiveRequest socket (received ++ bytes)
    | none => return none

/-!
### The build server
-/

/-- Sends a request to the build server and receives its reply.  There is no encryption here, so nothing is
sent to an address that asks for it. -/
def exchange (request : Request) : IO (Option Reply) := do
  if request.address.scheme = .https then return none
  try
    let port := request.address.port
    let host := String.ofList (request.address.host.filter fun c => c != '[' && c != ']')
    let addresses ← (DNS.getAddrInfo host (toString port)).block
    match addresses[0]? with
    | none => return none
    | some address =>
      let socket ← TCP.Socket.Client.mk
      (socket.connect (hostAddress port address)).block
      (socket.send request.toBytes).block
      return Reply.ofBytes? (← receiveAll socket .empty).toList
  catch _ => return none

/-- Runs a calculation over longer and longer transcripts, until it needs no reply that is not known. -/
partial def conclude (calculation : Transcript → Option (α × Running Transcript))
    (known : List (Option Reply)) : IO (Option (α × Running Transcript)) := do
  match calculation { known } with
  | none => return none
  | some (value, running) =>
    match running.links.world.wanted with
    | none => return some (value, running)
    | some request => conclude calculation (known ++ [← exchange request])

/-- Loads the tabs. -/
def loadTabs (settings : Settings) : IO (Option (Running Transcript)) :=
  return (← conclude (fun transcript =>
    (Running.load? settings .ascii Transcript.transport transcript).map fun running => ((), running))
    []).map Prod.snd

/-- Answers a request. -/
def answer (settings : Settings) (running : Running Transcript) (request : Http.Request) :
    IO (Option (Http.Response × Running Transcript)) :=
  conclude (fun transcript =>
    Running.handle? settings .ascii Transcript.transport request
      { running with links := { running.links with world := transcript } }) []

/-!
### The service
-/

/-- Serves one connection. -/
def serve (settings : Settings) (state : Std.Mutex (Running Transcript))
    (socket : TCP.Socket.Client) : IO Unit := do
  let response ← match ← receiveRequest socket .empty with
    | none => pure (some (.bare 400))
    | some request => state.atomically do
      match ← answer settings (← get) request with
      | none => return none
      | some (response, running) =>
        set running
        return some response
  match response with
  | none => return ()
  | some response =>
    (socket.send response.toBytes).block
    socket.shutdown.block

/-- Accepts connections without end. -/
partial def acceptAll (settings : Settings) (state : Std.Mutex (Running Transcript))
    (server : TCP.Socket.Server) : IO Unit := do
  let socket ← server.accept.block
  let _ ← IO.asTask (serve settings state socket)
  acceptAll settings state server

/-- The content of a file, if it is there. -/
def contentOf? (name : String) : IO (Option String) := do
  try return some (← IO.FS.readFile name)
  catch _ => return none

/-- The configuration file, if there is one in a format that is read here. -/
def configuration? : IO (Option (Settings.FileFormat × String)) := do
  match ← contentOf? "config/dashboard.toml" with
  | some content => return some (.toml, content)
  | none => return (← contentOf? "config/dashboard.json").map fun content => (.json, content)

/-- Loads the settings and the tabs, and serves them. -/
def run : IO UInt32 := do
  let environment ← Std.Internal.UV.System.osEnviron
  match Settings.load? (← configuration?) environment.toList with
  | none => return 1
  | some settings =>
    match ← loadTabs settings, Http.SocketAddress.parse? settings.listen with
    | some running, some address =>
      let server ← TCP.Socket.Server.mk
      server.bind (socketAddress address)
      server.listen 1024
      acceptAll settings (← Std.Mutex.new running) server
      return 0
    | _, _ => return 1

end DashletBoard.Program

/-- Runs the program; it ends only if it cannot start. -/
def main : IO UInt32 := DashletBoard.Program.run
