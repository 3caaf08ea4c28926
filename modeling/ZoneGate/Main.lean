import ZoneGate.Http.Message
import ZoneGate.Provider.Wire
import ZoneGate.Startup
import ZoneGate.Time.Timestamp
import Std.Async
import Std.Sync.Mutex
import Std.Time

/-!
# The command line

`main` takes the path of the configuration file and serves until it is interrupted. This layer only
moves bytes between files, sockets, the clock and the terminal; what they mean is decided by
`Startup`, `Gateway` and `Provider`. Sockets are plain, so a provider whose address is `https` is
reached through a forwarder, and its own address does not answer.
-/
namespace ZoneGate.Service

open Std.Async

/-- Why the system has refused a step. -/
def fileError : IO.Error → FileError
  | .noFileOrDirectory _ _ _ => .notFound
  | .alreadyExists _ code details | .invalidArgument _ code details
  | .permissionDenied _ code details | .resourceExhausted _ code details
  | .inappropriateType _ code details | .noSuchThing _ code details
  | .interrupted _ code details | .otherError code details | .resourceBusy code details
  | .resourceVanished code details | .unsupportedOperation code details
  | .hardwareFault code details | .unsatisfiedConstraints code details
  | .illegalOperation code details | .protocolError code details | .timeExpired code details =>
    if code = 21 then .isDirectory else .disk (details ++ " (os error " ++ toString code ++ ")")
  | .unexpectedEof => .disk "unexpected end of file"
  | .userError message => .disk message

def readFile (path : String) : IO (Except FileError (List UInt8)) := do
  try return .ok (← IO.FS.readBinFile path).toList
  catch e => return .error (fileError e)

/-- The state file as it is on the disk. -/
def look (path : String) : IO (Except FileError StateFile) := do
  let name := (Startup.FilePath.of path).name
  match ← readFile path with
  | .ok content => return .ok ⟨name, ⟨some [(name, .file content)]⟩⟩
  | .error .notFound => return .ok ⟨name, .empty⟩
  | .error .isDirectory => return .ok ⟨name, ⟨some [(name, .folder)]⟩⟩
  | .error e => return .error e

/-- Replaces a file as a whole, and tells what went wrong. -/
def replaceFile (path : String) (content : List UInt8) : IO (Option Directory.Fault) := do
  let place := Startup.FilePath.of path
  let staging := place.directory ++ Directory.stagingName place.name
  try
    IO.FS.withFile staging .write fun file => do
      file.write ⟨content.toArray⟩
      file.flush
  catch e =>
    try IO.FS.removeFile staging catch _ => pure ()
    return some ⟨.create, (fileError e).message⟩
  try IO.FS.rename staging path
  catch e => return some ⟨.rename, (fileError e).message⟩
  return none

/-- Puts a state file on the disk where it has changed. -/
def keep (path : String) (before after : StateFile) : IO (Option Directory.Fault) := do
  match before.directory.read before.name, after.directory.read after.name with
  | .ok old, .ok content => if old = content then return none else replaceFile path content
  | .error _, .ok content => replaceFile path content
  | _, .error _ => return none

def randomBytes (count : Nat) : IO (List UInt8) := do
  return (← IO.getRandomBytes count.toUSize).toList

def clock : IO Timestamp := do
  return .ofUnix (← Std.Time.Timestamp.now).toNanosecondsSinceUnixEpoch.val.toNat

def printEvents (span : Option Log.Span) (events : List Log.Event) : IO Unit := do
  for e in events do
    IO.println (e.entry (← clock) span)

/-- The service while it listens. -/
structure Running where
  gateway : Std.Mutex Gateway
  client : Provider.Client
  config : Config

/-- Handles a request as far as that can be done here, one request at a time. The result is the
gateway that the request met, what was supplied to it and what it led to. -/
def Running.handle (s : Running) (r : Http.Request) : IO (Gateway × Moment × Exchange) :=
  s.gateway.atomically do
    let served ← get
    let m : Moment :=
      ⟨← clock, Secret.ofRandom (← randomBytes Secret.size),
        Http.RequestId.ofRandom (← randomBytes Http.RequestId.size), none⟩
    let silent : Provider := fun _ => .silent
    match s.config.statePath, served.vault.file with
    | some path, some known =>
      let file := match ← look path with
        | .ok file => file
        | .error _ => known
      let g := { served with vault := { served.vault with file := some file } }
      let exchange := g.handle m silent r
      let fault ← keep path file (exchange.gateway.vault.file.getD file)
      let m := { m with fault }
      let exchange := if fault.isSome then g.handle m silent r else exchange
      set exchange.gateway
      return (g, m, exchange)
    | _, _ =>
      let exchange := served.handle m silent r
      set exchange.gateway
      return (served, m, exchange)

/-- Reads from a socket until what has arrived is complete. -/
partial def receive {α : Type} (socket : TCP.Socket.Client)
    (read : Bool → List UInt8 → Http.Wire.Arrival α) (arrived : List UInt8) : Async (Option α) := do
  let chunk ← socket.recv? 65536
  let arrived := arrived ++ (chunk.map fun bytes => bytes.toList).getD []
  match read chunk.isNone arrived with
  | .complete value => return some value
  | .malformed => return none
  | .incomplete => if chunk.isNone then return none else receive socket read arrived

/-- Sends one request to the provider. -/
def send (sent : Provider.Sent) : Async (Option Provider.Received) := do
  if sent.url.secure then return none
  let (host, port) := Provider.place sent.url
  match (← DNS.getAddrInfo host (toString port))[0]? with
  | none => return none
  | some address =>
    let socket ← TCP.Socket.Client.mk
    socket.connect (match address with
      | .v4 address => .v4 ⟨address, port.toUInt16⟩
      | .v6 address => .v6 ⟨address, port.toUInt16⟩)
    socket.send ⟨sent.wire.toArray⟩
    receive socket sent.answer []

/-- The network; a request that meets an error is not answered. -/
def network : Provider.Network Async := fun _ sent => do
  try send sent
  catch _ => return none

/-- Hands on a request within its time. -/
def Running.deliver (s : Running) (o : Outbound) : Async Delivery := do
  let (seconds, late) := Startup.deadline s.config
  let result ← Async.race
    (do return some (← s.client.deliver network o).2)
    (do
      sleep (.ofNat (1000 * min seconds.toNat UInt32.size))
      return none)
  return result.getD late

def Running.respond (s : Running) (r : Http.Request) : Async Http.Response := do
  let (g, m, here) ← s.handle r
  let exchange ← match here.outbound with
    | none => pure here
    | some outbound =>
      let handed := [s.client.event outbound]
      printEvents here.span (Log.visible here.gateway.filter here.span handed)
      let delivery ← s.deliver outbound
      pure (g.handle m (fun _ => delivery) r)
  printEvents exchange.span exchange.events
  return exchange.response

/-- Serves one connection. -/
def Running.converse (s : Running) (socket : TCP.Socket.Client) : Async Unit := do
  try
    let limit := s.config.maxBodyBytes.toNat + 1
    match ← receive socket (fun _ => Http.Wire.request limit) [] with
    | none => socket.send ⟨Http.Wire.refusal.toArray⟩
    | some r => socket.send ⟨(Http.Wire.answer r.method (← s.respond r)).toArray⟩
    socket.shutdown
  catch _ => return ()

/-- Serves connections as they come. -/
partial def Running.listen (s : Running) (server : TCP.Socket.Server) : Async Unit := do
  let socket ← server.accept
  background (s.converse socket)
  s.listen server

def address : Net.SocketAddress → Std.Net.SocketAddress
  | .v4 a b c d port => .v4 ⟨.ofParts a b c d, port⟩
  | .v6 [a, b, c, d, e, f, g, h] _ port => .v6 ⟨.ofParts a b c d e f g h, port⟩
  | .v6 _ _ port => .v6 ⟨.ofParts 0 0 0 0 0 0 0 0, port⟩

def fail (failure : Startup.Failure) : IO UInt32 := do
  for line in failure.lines do
    IO.eprintln line
  return 1

/-- Listens until the service is interrupted. -/
def serve (c : Config) (ready : Startup.Ready) : IO UInt32 := do
  try
    let interrupt ← (← Signal.Waiter.mk .sigint false).wait
    let server ← TCP.Socket.Server.mk
    server.bind (address c.bindAddress)
    server.listen 1024
    let running : Running := ⟨← Std.Mutex.new ready.gateway, ready.client, c⟩
    let _ ← (running.listen server).toIO
    let _ ← interrupt.block
    let g ← running.gateway.atomically get
    printEvents none (Log.visible g.filter none Startup.stoppingEvents)
    return 0
  catch e => fail (.error (.file (fileError e)))

/-- Starts from a configuration, with the state file on the disk if there is one. -/
def start (c : Config) (filter : Log.Filter) : IO Startup.Progress := do
  match c.statePath with
  | none => return Startup.start c filter none none
  | some path =>
    match ← look path with
    | .error e => return ⟨c.openingEvents, .error (.error (.file e)), none⟩
    | .ok file =>
      let progress := Startup.start c filter (some file) none
      match ← keep path file (progress.file.getD file) with
      | none => return progress
      | fault => return Startup.start c filter (some file) fault

def run (path : String) : IO UInt32 := do
  let filter := Log.Filter.ofVariable (← IO.getEnv Startup.filterVariable)
  match Config.load (← readFile path) (← IO.getEnv masterKeyVariable) with
  | .error e => fail (.error e)
  | .ok c =>
    let progress ← start c filter
    let events := Startup.configEvent path c :: progress.events
    printEvents none (Log.visible (some filter) none events)
    match progress.result with
    | .error failure => fail failure
    | .ok ready => serve c ready

end ZoneGate.Service

/-- Runs the service; the exit code tells whether it came to a good end. -/
def main (arguments : List String) : IO UInt32 :=
  match arguments with
  | [] => ZoneGate.Service.fail (.usage ZoneGate.Startup.target)
  | path :: _ => ZoneGate.Service.run path
