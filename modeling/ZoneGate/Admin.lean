import ZoneGate.Access
import ZoneGate.Vault

/-!
# Managing tokens

Making and deleting tokens on behalf of a caller. The caller is looked up again under the state
that the operation acts on, so its authority is always the present one.
-/
namespace ZoneGate

/-- A token just made, with its secret, which is shown this once. -/
structure Issued where
  token : Token
  secret : String
  /-- Who asked for it. -/
  issuer : Identity
  /-- Whether it is the first administrator token, so that the master key is locked from now on. -/
  isFirst : Bool

/-- A token just deleted. -/
structure Revoked where
  token : Token
  issuer : Identity

namespace Admin

/-- The target of the events below. -/
def target : String := "zonewarden::admin"

/-- How an event names a token. -/
def tokenText (t : Token) : String :=
  "token " ++ toString t.id.toNat ++ " (" ++ Text.Quoted.text t.name ++ ")"

end Admin

def Issued.events (issued : Issued) : List Log.Event :=
  let kind := if issued.token.isAdmin then "admin " else "scoped "
  ⟨Admin.target, .info,
      issued.issuer.text ++ " created " ++ kind ++ Admin.tokenText issued.token⟩ ::
    if issued.isFirst then
      [⟨Admin.target, .info, "first administrator token created, master key is now locked"⟩]
    else []

def Revoked.events (revoked : Revoked) : List Log.Event :=
  [⟨Admin.target, .info, revoked.issuer.text ++ " deleted " ++ Admin.tokenText revoked.token⟩]

namespace Admin

/-- The caller as it is now, if it administers. -/
def authorize (r : Registry) (caller : Identity) : Except Error Identity :=
  match caller.refresh r with
  | .error e => .error e
  | .ok current =>
    match current.requireAdmin (Bootstrap.of r) with
    | .error e => .error e
    | .ok () => .ok current

/-- What a caller may have made for it: the caller as it is now, and the checked token. Before the
first administrator only an administrator can be made, whatever else the grant holds. -/
def approve (r : Registry) (caller : Identity) (g : Grant) : Except Error (Identity × NewToken) :=
  match authorize r caller with
  | .error e => .error e
  | .ok current =>
    if Bootstrap.of r = .unconfigured && !g.isAdmin then .error .noAdminYet
    else
      match g.validate with
      | .error fault => .error (.invalidGrant fault)
      | .ok t => .ok (current, t)

/-- Makes a token for a grant, with a fresh secret. -/
def create (hasher : Hasher) (v : Vault) (caller : Identity) (g : Grant) (secret : String)
    (now : Timestamp) (fault : Option Directory.Fault) : Except Error Issued × Vault :=
  match approve v.registry caller g with
  | .error e => (.error e, v)
  | .ok (current, t) =>
    match v.create t (hasher.digest secret) now fault with
    | (.error e, v) => (.error e, v)
    | (.ok token, v') =>
      (.ok ⟨token, secret, current, Bootstrap.of v.registry = .unconfigured⟩, v')

/-- Deletes a token. -/
def delete (v : Vault) (caller : Identity) (id : TokenId) (fault : Option Directory.Fault) :
    Except Error Revoked × Vault :=
  match authorize v.registry caller with
  | .error e => (.error e, v)
  | .ok current =>
    match v.delete id fault with
    | (.error e, v) => (.error e, v)
    | (.ok token, v) => (.ok ⟨token, current⟩, v)

end Admin

end ZoneGate
