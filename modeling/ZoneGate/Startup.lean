import ZoneGate.Gateway

/-!
# Starting and stopping the service

The service is started with the path of its configuration file. It reads the configuration, opens
the tokens, prepares the way to the provider, and then listens until it is interrupted. Each stage
logs what it does and may be the last one.
-/
namespace ZoneGate.Startup

/-- Why the service does not start. -/
inductive Failure where
  /-- No configuration file was named. -/
  | usage (program : String)
  | error (cause : Error)

/-- The lines that tell a failure. -/
def Failure.lines : Failure → List String
  | usage program => ["Error: usage: " ++ program ++ " /path/to/config.json"]
  | error e =>
    ("Error: " ++ e.message) ::
      match e.cause? with
      | none => []
      | some cause => ["", "Caused by:", "    " ++ cause]

/-- The target of the events below. -/
def target : String := "zonewarden"

/-- The name of the variable that sets the log filter. -/
def filterVariable : String := "RUST_LOG"

/-- The event of a configuration that has been read. -/
def configEvent (path : String) (c : Config) : Log.Event :=
  ⟨target, .debug, "loaded config from " ++ path ++ ": " ++ c.debug⟩

/-- The events of a gateway that is about to listen. -/
def listeningEvents (c : Config) (vault : Vault) : List Log.Event :=
  let warning : List Log.Event :=
    if Bootstrap.of vault.registry = .unconfigured then
      [⟨target, .warn, "no administrator token exists yet, create one with the master key"⟩]
    else []
  warning ++
    [⟨target, .info, "forwarding to " ++ c.baseUrl⟩,
     ⟨target, .info, "API listening on " ++ c.bindAddress.text⟩]

/-- The events of a service that is interrupted. -/
def stoppingEvents : List Log.Event :=
  [⟨target, .info, "quitting from signal"⟩, ⟨target, .info, "goodbye"⟩]

/-- A service that is ready to listen. -/
structure Ready where
  gateway : Gateway
  client : Provider.Client

/-- How many seconds an exchange with the provider may take, and what it comes to when they are
over. Where the request itself has no more time than the provider, it is the request that times
out. -/
def deadline (c : Config) : UInt64 × Delivery :=
  if c.timeout ≤ c.providerTimeout then (c.timeout, .silent)
  else (c.providerTimeout, .failed "operation timed out")

/-- How far starting has come, with the events on the way. -/
structure Progress where
  events : List Log.Event
  result : Except Failure Ready
  /-- The state file as it was left. -/
  file : Option StateFile

/-- The tokens of a configuration: those of the state file, if there is one. -/
def openVault (file : Option StateFile) (fault : Option Directory.Fault) :
    Except Error Vault × Option StateFile :=
  match file with
  | none => (.ok .inMemory, none)
  | some f =>
    match Vault.load f fault with
    | (.ok r, f) => (.ok ⟨r, some f⟩, some f)
    | (.error e, f) => (.error e, some f)

/-- Starts from a configuration. -/
def start (c : Config) (filter : Log.Filter) (file : Option StateFile)
    (fault : Option Directory.Fault) : Progress :=
  match openVault file fault with
  | (.error e, file) => ⟨c.openingEvents, .error (.error e), file⟩
  | (.ok vault, file) =>
    match Provider.Client.of? c.baseUrl c.masterKey with
    | .error fault => ⟨c.openingEvents, .error (.error (.invalidConfig fault)), file⟩
    | .ok client =>
      ⟨c.openingEvents ++ listeningEvents c vault,
        .ok ⟨Gateway.ofConfig c vault filter, client⟩, file⟩

/-- A path as a directory and the name of a file in it. -/
structure FilePath where
  directory : String
  name : String
  deriving DecidableEq

/-- Splits a path at its last slash. -/
def FilePath.of (path : String) : FilePath :=
  let name := (path.toList.reverse.takeWhile (· ≠ '/')).reverse
  ⟨String.ofList (path.toList.take (path.length - name.length)), String.ofList name⟩

/-- Whether a directory is the one that the service is run in. -/
def FilePath.isHere (p : FilePath) : Bool := p.directory.isEmpty || p.directory = "./"

/-- What a run leaves behind. -/
structure Report where
  lines : List String
  failure : Option Failure
  /-- The directory that the service was run in. -/
  directory : Directory

/-- A whole run in a directory, with the service interrupted as soon as it listens. -/
def run (program : String) (arguments : List String) (environment : List (String × String))
    (here : Directory) : Report :=
  let filter := Log.Filter.ofVariable (environment.lookup filterVariable)
  let lines (events : List Log.Event) : List String :=
    (Log.visible (some filter) none events).map Log.Event.line
  let place (path : String) : StateFile :=
    let p := FilePath.of path
    ⟨p.name, if p.isHere then here else .missing⟩
  match arguments with
  | [] => ⟨[], some (.usage program), here⟩
  | path :: _ =>
    let file := place path
    match Config.load (file.directory.read file.name) (environment.lookup masterKeyVariable) with
    | .error e => ⟨[], some (.error e), here⟩
    | .ok c =>
      let progress := start c filter (c.statePath.map place) none
      let left := match progress.file with
        | some f => if f.directory = .missing then here else f.directory
        | none => here
      match progress.result with
      | .error failure => ⟨lines (configEvent path c :: progress.events), some failure, left⟩
      | .ok _ => ⟨lines (configEvent path c :: progress.events ++ stoppingEvents), none, left⟩

end ZoneGate.Startup
