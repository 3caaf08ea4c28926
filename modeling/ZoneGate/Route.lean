import ZoneGate.Http.Message
import ZoneGate.Text.Hex
import ZoneGate.Token

/-!
# Routes

The gateway's own paths, with the methods of each. Every other path is the provider's.
-/
namespace ZoneGate

/-- Where a path leads. -/
inductive Route where
  | health
  | ready
  | tokens
  /-- One token by the segment that names it, still percent-encoded. -/
  | token (segment : String)
  | whoami
  | logLevel
  | provider
  deriving DecidableEq

/-- What a request wants done. -/
inductive Task where
  | health
  | ready
  | createToken
  | listTokens
  | showToken (segment : String)
  | deleteToken (segment : String)
  | whoami
  | setLogLevel
  | forward
  /-- Nothing: the path has other methods. -/
  | refuse (methods : String)
  deriving DecidableEq

namespace Route

def ofPath (path : String) : Route :=
  if path = "/healthcheck" then health
  else if path = "/ready" then ready
  else if path = "/admin/api/tokens" then tokens
  else if path = "/admin/api/whoami" then whoami
  else if path = "/admin/api/loglevel" then logLevel
  else
    match Text.dropStart? "/admin/api/tokens/" path with
    | some segment => if segment.isEmpty || segment.contains '/' then provider else token segment
    | none => provider

/-- Whether a method reads; what is read with `GET` can be asked for with `HEAD`. -/
def reads (m : Http.Method) : Bool := m = .get || m = .head

/-- What a method does on a route. -/
def task (m : Http.Method) : Route → Task
  | health => if reads m then .health else .refuse "GET,HEAD"
  | ready => if reads m then .ready else .refuse "GET,HEAD"
  | tokens =>
    if reads m then .listTokens else if m = .post then .createToken else .refuse "GET,HEAD,POST"
  | token segment =>
    if reads m then .showToken segment
    else if m = .delete then .deleteToken segment
    else .refuse "GET,HEAD,DELETE"
  | whoami => if reads m then .whoami else .refuse "GET,HEAD"
  | logLevel => if m = .post then .setLogLevel else .refuse "POST"
  | provider => .forward

end Route

/-- The text of a percent-encoded segment, if it is UTF-8. -/
def decodeSegment? (segment : String) : Option String :=
  Text.ofBytes? (Text.Percent.decode (Text.bytes segment))

/-- The id that a segment spells: digits after an optional plus sign. -/
def TokenId.parse? (s : String) : Option TokenId :=
  (Text.plusDecimal? (Text.bytes s)).bind fun n =>
    if n < UInt64.size then some (UInt64.ofNat n) else none

end ZoneGate
