import ZoneGate.Registry

/-!
# Who is asking

A caller is known by the master key or by a token. What a token caller may do is a snapshot of the
stored token, taken when the caller was recognised.
-/
namespace ZoneGate

/-- Whether an administrator token has ever been made. Until then the master key administers. -/
inductive Bootstrap where
  | unconfigured
  | configured
  deriving DecidableEq, Repr

namespace Bootstrap

def of (r : Registry) : Bootstrap := if r.adminEverCreated then configured else unconfigured

def name : Bootstrap → String
  | unconfigured => "UNCONFIGURED"
  | configured => "CONFIGURED"

def toJson (b : Bootstrap) : Json.Value := .string b.name

end Bootstrap

inductive Identity where
  | master
  | token (t : Token)
  deriving DecidableEq

namespace Identity

def isMaster : Identity → Bool
  | master => true
  | token _ => false

def token? : Identity → Option Token
  | master => none
  | token t => some t

/-- Whether the caller administers. The master key does so only before the first administrator
token. -/
def isAdmin (caller : Identity) (state : Bootstrap) : Bool :=
  match caller with
  | master => state = .unconfigured
  | token t => t.isAdmin

/-- How logs name a caller. -/
def text : Identity → String
  | master => "master key"
  | token t => "token " ++ toString t.id.toNat ++ " (" ++ Text.Quoted.text t.name ++ ")"

/-- Lets a caller pass that administers now. -/
def requireAdmin (caller : Identity) (state : Bootstrap) : Except Error Unit :=
  match caller, state with
  | master, .configured => .error (.denied .masterKeyLocked)
  | master, .unconfigured => .ok ()
  | token t, _ => if t.isAdmin then .ok () else .error (.denied .forbidden)

/-- The caller as it is stored now, so that a token that has been deleted cannot act. -/
def refresh (r : Registry) : Identity → Except Error Identity
  | master => .ok master
  | token t =>
    match r.tokens.get? t.id with
    | some current => .ok (token current)
    | none => .error .revokedCaller

end Identity

end ZoneGate
