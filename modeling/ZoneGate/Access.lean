import ZoneGate.Identity

/-!
# Recognising callers and deciding requests

A credential is trimmed and digested. It is the master key's if it has the master key's digest, and
otherwise that of the first token with its digest. Administrators may then do everything. A scoped
token needs an action that may be granted at all and a permission of its own for the zone; listing
the zones needs such a permission for any zone.
-/
namespace ZoneGate

structure Access where
  hasher : Hasher
  masterDigest : Digest

namespace Access

def ofMasterKey (hasher : Hasher) (masterKey : String) : Access :=
  ⟨hasher, hasher.digest masterKey⟩

def isMasterKey (access : Access) (credential : String) : Bool :=
  access.hasher.digest credential = access.masterDigest

/-- The caller that a credential belongs to. What it may do is decided elsewhere. -/
def resolve (access : Access) (r : Registry) (credential : Option String) :
    Except Error Identity :=
  let trimmed := Text.trim (credential.getD "")
  if trimmed.isEmpty then .error .missingKey
  else if access.isMasterKey trimmed then .ok .master
  else
    match r.find? (access.hasher.digest trimmed) with
    | some t => .ok (.token t)
    | none => .error (.unknownKey (Secret.mask trimmed))

end Access

inductive Decision where
  | allow
  | deny (reason : Denial)
  deriving DecidableEq, Repr

namespace Decision

def result : Decision → Except Error Unit
  | allow => .ok ()
  | deny reason => .error (.denied reason)

/-- Whether the permissions of a token cover a request. Of several permissions for a zone only the
first counts. -/
def covers (t : Token) (d : Descriptor) : Bool :=
  match d.zone with
  | some zone =>
    match t.permission? zone with
    | some p => p.permits d.action d.recordType
    | none => false
  | none => t.permissions.any fun p => p.allows d.action

def check (caller : Identity) (state : Bootstrap) (d : Descriptor) : Decision :=
  match caller, state with
  | .master, .configured => deny .masterKeyLocked
  | .master, .unconfigured => allow
  | .token t, _ =>
    if t.isAdmin || (!d.action.isAdminOnly && covers t d) then allow else deny .forbidden

end Decision

end ZoneGate
