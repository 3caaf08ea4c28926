import ZoneGate.Error
import ZoneGate.Http.Message
import ZoneGate.Http.Url

/-!
# The provider

What is sent to the provider for a request that is let through, and what comes back. Requests carry
the account key, and redirects are followed.
-/
namespace ZoneGate

/-- A request as it is handed on to the provider. -/
structure Outbound where
  method : Http.Method
  pathAndQuery : String
  contentType : Option (List UInt8)
  body : List UInt8
  deriving DecidableEq

/-- The provider's answer. -/
structure Reply where
  status : Nat
  contentType : Option (List UInt8)
  body : List UInt8
  deriving DecidableEq

/-- What handing on a request comes to. -/
inductive Delivery where
  | answered (reply : Reply)
  | failed (cause : String)
  /-- Nothing came back in time. -/
  | silent
  deriving DecidableEq

/-- The way to the provider. -/
abbrev Provider := Outbound → Delivery

namespace Provider

/-- A client of the provider. -/
structure Client where
  /-- The provider's address without trailing slashes. -/
  base : String
  accountKey : List UInt8

/-- A request as it goes over the network. -/
structure Sent where
  url : Http.Url
  method : Http.Method
  accountKey : List UInt8
  contentType : Option (List UInt8)
  body : List UInt8
  deriving DecidableEq

/-- What comes back over the network. -/
structure Received where
  status : Nat
  contentType : Option (List UInt8)
  location : Option String
  body : List UInt8
  deriving DecidableEq

/-- What the network answers to the requests of one exchange, which are numbered from zero, or
nothing where no answer comes. -/
abbrev Network (m : Type → Type) := Nat → Sent → m (Option Received)

namespace Client

/-- A text without the slashes at its end. -/
def withoutSlashes (s : String) : String :=
  String.ofList (s.toList.reverse.dropWhile (· = '/')).reverse

/-- The client of an address and account key. The key must be fit for a header. -/
def of? (base accountKey : String) : Except ConfigFault Client :=
  let key := Text.bytes accountKey
  if key.all Http.Header.isValueByte then .ok ⟨withoutSlashes base, key⟩
  else .error .unprintableMasterKey

/-- The address that a request is for. -/
def address (c : Client) (pathAndQuery : String) : String := c.base ++ pathAndQuery

/-- The event of a request that is handed on. -/
def event (c : Client) (o : Outbound) : Log.Event :=
  ⟨"zonewarden::upstream", .debug,
    "forwarding " ++ o.method.name ++ " " ++ c.address o.pathAndQuery⟩

/-- The first request that is sent, if its address is one of the web. -/
def first? (c : Client) (o : Outbound) : Option Sent :=
  (Http.Url.parse? (c.address o.pathAndQuery)).map fun url =>
    ⟨url, o.method, c.accountKey, o.contentType, o.body⟩

/-- Whether a status asks for another address. -/
def isRedirect (status : Nat) : Bool := [301, 302, 303, 307, 308].contains status

/-- The request that a redirect asks for. The older kinds ask to read the new address, and the newer
ones to repeat the request there. -/
def redirected (sent : Sent) (status : Nat) (url : Http.Url) : Sent :=
  if status = 307 || status = 308 then { sent with url }
  else
    let method := if sent.method = .head then Http.Method.head else .get
    { sent with url, method, contentType := none, body := [] }

/-- What is read of an answer. Some answers have no body whatever comes with them. -/
def reply (sent : Sent) (received : Received) : Reply :=
  let isEmpty := sent.method = .head || [204, 304].contains received.status
  ⟨received.status, received.contentType, if isEmpty then [] else received.body⟩

/-- How many addresses may be visited for one request. -/
def maxVisits : Nat := 10

/-- Where an answer sends the request on to. -/
def next (sent : Sent) (received : Received) : Http.Url.Referent :=
  match isRedirect received.status, received.location with
  | true, some location => sent.url.resolve location
  | _, _ => .nothing

variable {m : Type → Type} [Monad m]

/-- Sends a request and follows the redirects that it meets, as long as visits are left. Gives the
requests that were answered and what came of it. The last request is not among them if no answer
came, although it may have reached its host, as one that times out does. -/
def exchange (network : Network m) : Nat → Sent → m (List Sent × Delivery)
  | 0, _ => return ([], .failed "too many redirects")
  | visits + 1, sent => do
    match ← network (maxVisits - (visits + 1)) sent with
    | none => return ([], .failed "error trying to connect")
    | some received =>
      match next sent received with
      | .nothing => return ([sent], .answered (reply sent received))
      | .foreign => return ([sent], .failed "URL scheme is not allowed")
      | .url url =>
        let (more, delivery) ← exchange network visits (redirected sent received.status url)
        return (sent :: more, delivery)

/-- Hands on a request. -/
def deliver (c : Client) (network : Network m) (o : Outbound) : m (List Sent × Delivery) :=
  match c.first? o with
  | none => return ([], .failed "builder error")
  | some sent => exchange network maxVisits sent

end Client

end Provider

end ZoneGate
