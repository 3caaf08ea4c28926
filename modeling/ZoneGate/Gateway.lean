import ZoneGate.Access
import ZoneGate.Admin
import ZoneGate.Config
import ZoneGate.Http.Message
import ZoneGate.Provider
import ZoneGate.Route

/-!
# The gateway

One request at a time, as a function from the gateway's state to what is answered, logged and
forwarded and the state after it. Requests for the provider pass three stages: the caller is
recognised, the request is classified, and the caller's permissions are checked. Requests to manage
tokens are recognised first and looked at only then.
-/
namespace ZoneGate

structure Gateway where
  access : Access
  maxBodyBytes : UInt64
  vault : Vault
  /-- Missing once the log filter is gone. -/
  filter : Option Log.Filter

/-- What the world supplies while a request is handled. -/
structure Moment where
  now : Timestamp
  /-- A secret that nobody knows yet. -/
  secret : String
  /-- A request id that nobody has used yet. -/
  requestId : String
  /-- A failure of the disk, if there is one. -/
  fault : Option Directory.Fault

/-- What handling a request comes to. -/
structure Handled where
  result : Except Error (Nat × Http.Content)
  gateway : Gateway
  events : List Log.Event
  outbound : Option Outbound

/-- Everything that a request leads to. -/
structure Exchange where
  response : Http.Response
  gateway : Gateway
  /-- What the events belong to, if the log shows it. -/
  span : Option Log.Span
  events : List Log.Event
  outbound : Option Outbound

namespace Error

/-- The status of a response that tells an error. -/
def status : Error → Nat
  | missingKey | unreadableKey | unknownKey _ | revokedCaller => 401
  | unclassified _ | invalidGrant _ | badTokenId _ | malformedRequest _ => 400
  | denied _ => 403
  | lastAdmin => 409
  | noAdminYet => 422
  | tokenNotFound _ => 404
  | provider _ => 502
  | noLogFilter => 503
  | invalidConfig _ | file _ | invalidJson _ => 500

end Error

namespace Token

/-- A token without its digest; permissions are shown only where there are some. -/
def details (t : Token) : List (String × Json.Value) :=
  t.summary ++
    (if t.permissions.isEmpty then []
     else [("permissions", .array (t.permissions.map Permission.toJson))])

end Token

/-- The body of a request to change the log level. -/
structure LevelChange where
  level : Log.Level

namespace LevelChange

def shape : Json.Shape LevelChange where
  name := "LogLevelChange"
  blank := ⟨.info⟩
  fields := [.of "level" Log.Level.format (fun level _ => ⟨level⟩) .required]
  strict := true

def format : Json.Format LevelChange := shape.format

end LevelChange

namespace Gateway

/-- Where a gateway starts from its configuration. -/
def ofConfig (c : Config) (vault : Vault) (filter : Log.Filter) : Gateway :=
  ⟨.ofMasterKey c.hasher c.masterKey, c.maxBodyBytes, vault, some filter⟩

/-- The text of the first header of a name; one that is no text is an error. -/
def readHeader (headers : List Http.Header) (name : String) : Except Error (Option String) :=
  match Http.firstHeader? headers name with
  | none => .ok none
  | some value =>
    match Http.headerText? value with
    | some s => .ok (some s)
    | none => .error .unreadableKey

/-- The key that a request presents: the `AccessKey` header, or a bearer `Authorization` where that
one is missing or blank. -/
def credential (headers : List Http.Header) : Except Error (Option String) := do
  match ← readHeader headers "accesskey" with
  | some key =>
    if !Text.allBlank key then return some key
    return (← readHeader headers "authorization").bind (Text.dropStart? "Bearer ")
  | none => return (← readHeader headers "authorization").bind (Text.dropStart? "Bearer ")

/-- Who makes a request. -/
def authenticate (g : Gateway) (r : Http.Request) : Except Error Identity := do
  g.access.resolve g.vault.registry (← credential r.headers)

/-- The target of events about requests. -/
def routesTarget : String := "zonewarden::api::routes"

/-- Answers that leave the gateway as it is. -/
def answer (g : Gateway) (result : Except Error (Nat × Http.Content)) : Handled :=
  let events := match result with
    | .ok _ => []
    | .error e => e.events
  ⟨result, g, events, none⟩

def ready (g : Gateway) : Handled :=
  match g.vault.ready with
  | .ok () => g.answer (.ok (200, .json (.object [("status", .string "ok")])))
  | .error e =>
    ⟨.ok (503, .json (.object
      [("status", .string "not_ready"), ("error", .string "token store unavailable")])), g,
      [⟨routesTarget, .warn, "token store not ready: " ++ e.message⟩], none⟩

def createToken (g : Gateway) (m : Moment) (r : Http.Request) : Handled :=
  match g.authenticate r with
  | .error e => g.answer (.error e)
  | .ok caller =>
    match Grant.format.parse r.body with
    | .error e => g.answer (.error (.malformedRequest e))
    | .ok grant =>
      match Admin.create g.access.hasher g.vault caller grant m.secret m.now m.fault with
      | (.error e, vault) => { g with vault }.answer (.error e)
      | (.ok issued, vault) =>
        ⟨.ok (201, .json (.object (issued.token.details ++ [("token", .string issued.secret)]))),
          { g with vault }, issued.events, none⟩

def listTokens (g : Gateway) (r : Http.Request) : Handled :=
  g.answer do
    let _ ← g.authenticate r
    return (200, .json (.array (g.vault.registry.list.map fun t => .object t.summary)))

/-- The id that a path names. -/
def tokenId (id : String) : Except Error TokenId :=
  match TokenId.parse? id with
  | some id => .ok id
  | none => .error (.badTokenId id)

def showToken (g : Gateway) (r : Http.Request) (id : String) : Handled :=
  g.answer do
    let _ ← g.authenticate r
    let t ← g.vault.registry.get (← tokenId id)
    return (200, .json (.object t.details))

def deleteToken (g : Gateway) (m : Moment) (r : Http.Request) (id : String) : Handled :=
  match g.authenticate r with
  | .error e => g.answer (.error e)
  | .ok caller =>
    match tokenId id with
    | .error e => g.answer (.error e)
    | .ok id =>
      match Admin.delete g.vault caller id m.fault with
      | (.error e, vault) => { g with vault }.answer (.error e)
      | (.ok revoked, vault) => ⟨.ok (204, .nothing), { g with vault }, revoked.events, none⟩

def whoami (g : Gateway) (r : Http.Request) : Handled :=
  g.answer do
    let caller ← g.authenticate r
    let state := Bootstrap.of g.vault.registry
    let token := match caller.token? with
      | none => []
      | some t => [("token", Json.Value.object t.details)]
    return (200, .json (.object
      ([("is_master_key", .bool caller.isMaster), ("is_admin", .bool (caller.isAdmin state)),
        ("bootstrap_state", state.toJson)] ++ token)))

def setLogLevel (g : Gateway) (r : Http.Request) : Handled :=
  match g.authenticate r with
  | .error e => g.answer (.error e)
  | .ok caller =>
    match Admin.authorize g.vault.registry caller with
    | .error e => g.answer (.error e)
    | .ok _ =>
      match LevelChange.format.parse r.body with
      | .error e => g.answer (.error (.malformedRequest e))
      | .ok change =>
        match g.filter with
        | none => g.answer (.error .noLogFilter)
        | some _ =>
          ⟨.ok (200, .json (.object [("level", change.level.toJson)])),
            { g with filter := some (.ofLevel change.level) },
            [⟨routesTarget, .info,
              caller.text ++ " set log level to " ++ change.level.name⟩], none⟩

/-- The event of a request that is denied. -/
def denialEvent (caller : Identity) (d : Descriptor) (reason : Denial) : Log.Event :=
  let zone := match d.zone with
    | none => "None"
    | some zone => "Some(" ++ zone.text ++ ")"
  ⟨routesTarget, .debug, "denied " ++ caller.text ++ " " ++ d.action.name ++ " on zone " ++ zone ++
    ": " ++ reason.label⟩

/-- The request that goes to the provider. -/
def outbound (r : Http.Request) : Outbound :=
  ⟨r.method, r.target.pathAndQuery, Http.firstHeader? r.headers "content-type", r.body⟩

/-- The response to a request that was forwarded. Where the provider is silent the request has
timed out. -/
def relay : Delivery → Except Error (Nat × Http.Content)
  | .answered reply => .ok (reply.status, .relayed reply.contentType reply.body)
  | .failed cause => .error (.provider cause)
  | .silent => .ok (408, .nothing)

def forward (g : Gateway) (provider : Provider) (r : Http.Request) : Handled :=
  match g.authenticate r with
  | .error e => g.answer (.error e)
  | .ok caller =>
    match Endpoint.classify r.method r.target.path r.body with
    | .error e => g.answer (.error (.unclassified e))
    | .ok d =>
      match Decision.check caller (Bootstrap.of g.vault.registry) d with
      | .deny reason => ⟨.error (.denied reason), g, [denialEvent caller d reason], none⟩
      | .allow => ⟨relay (provider (outbound r)), g, [], some (outbound r)⟩

/-- Refuses a body that is too long before anything else. -/
def withBody (g : Gateway) (r : Http.Request) (next : Handled) : Handled :=
  if g.maxBodyBytes.toNat < r.body.length then
    g.answer (.ok (413, .text "Failed to buffer the request body: length limit exceeded"))
  else next

/-- Decodes a segment of the path before anything else. -/
def withSegment (g : Gateway) (segment : String) (next : String → Handled) : Handled :=
  match decodeSegment? segment with
  | none => g.answer (.ok (400, .text "Invalid URL: Invalid UTF-8 in `id`"))
  | some id => next id

/-- Does what a request wants done. -/
def perform (g : Gateway) (m : Moment) (provider : Provider) (r : Http.Request) : Task → Handled
  | .health => g.answer (.ok (200, .json (.object [("ok", .string "healthy")])))
  | .ready => g.ready
  | .createToken => g.withBody r (g.createToken m r)
  | .listTokens => g.listTokens r
  | .showToken segment => g.withSegment segment (g.showToken r)
  | .deleteToken segment => g.withSegment segment (g.deleteToken m r)
  | .whoami => g.whoami r
  | .setLogLevel => g.withBody r (g.setLogLevel r)
  | .forward => g.withBody r (g.forward provider r)
  | .refuse _ => g.answer (.ok (405, .nothing))

/-- The status and content that tell a result, and the event of a failure on this side. -/
def tell : Except Error (Nat × Http.Content) → (Nat × Http.Content) × List Log.Event
  | .ok answer => (answer, [])
  | .error e =>
    ((e.status, .json (.object [("error", .string e.message)])),
      if 500 ≤ e.status then
        [⟨"zonewarden::api::api_error", .error, "request failed: " ++ e.fullMessage⟩]
      else [])

/-- What the events of a request belong to. -/
def requestSpan (r : Http.Request) (id : String) : Log.Span where
  target := "zonewarden::api::request_id"
  level := .info
  name := "request"
  fields := [⟨"method", r.method.name, false⟩, ⟨"path", r.target.path, true⟩,
    ⟨"request_id", id, true⟩]

/-- Handles a request. The answer to `HEAD` on the gateway's own paths goes without its body. -/
def handle (g : Gateway) (m : Moment) (provider : Provider) (r : Http.Request) : Exchange :=
  let route := Route.ofPath r.target.path
  let task := route.task r.method
  let id := Http.RequestId.choose r.headers m.requestId
  let handled := g.perform m provider r task
  let ((status, content), failure) := tell handled.result
  let allow := match task with
    | .refuse methods => some methods
    | _ => none
  let body := if r.method = .head && route ≠ .provider then [] else content.body
  let span := requestSpan r id
  let span := if g.filter.any (·.enters span) then some span else none
  { response := ⟨status, content.contentType, allow, id, body⟩
    gateway := handled.gateway
    span
    events := Log.visible handled.gateway.filter span (handled.events ++ failure)
    outbound := handled.outbound }

end Gateway

end ZoneGate
