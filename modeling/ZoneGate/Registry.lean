import ZoneGate.Error
import ZoneGate.Json.Printer
import ZoneGate.TokenMap

/-!
# The registry of tokens

The tokens that exist, the number of the latest one, and whether an administrator token was ever
made. The last administrator token cannot be deleted.
-/
namespace ZoneGate

structure Registry where
  /-- The id of the latest token. -/
  nextId : TokenId
  /-- Never reset, even where the number of administrators falls. -/
  adminEverCreated : Bool
  tokens : TokenMap
  deriving DecidableEq

namespace Registry

def empty : Registry := ⟨0, false, .empty⟩

/-- Makes a token with the next id. -/
def create (r : Registry) (t : NewToken) (digest : Digest) (now : Timestamp) :
    Token × Registry :=
  let id := r.nextId + 1
  let token : Token := ⟨id, t.name, t.isAdmin, now, t.permissions, digest⟩
  (token, ⟨id, r.adminEverCreated || t.isAdmin, r.tokens.insert id token⟩)

def get (r : Registry) (id : TokenId) : Except Error Token :=
  match r.tokens.get? id with
  | some t => .ok t
  | none => .error (.tokenNotFound id)

/-- The tokens in ascending order of their keys. -/
def list (r : Registry) : List Token := r.tokens.tokens

def adminCount (r : Registry) : Nat := r.list.countP (·.isAdmin)

/-- Deletes a token, but not the only administrator. -/
def delete (r : Registry) (id : TokenId) : Except Error (Token × Registry) :=
  match r.tokens.get? id with
  | none => .error (.tokenNotFound id)
  | some t =>
    if t.isAdmin && r.adminCount ≤ 1 then .error .lastAdmin
    else .ok (t, { r with tokens := r.tokens.erase id })

/-- The first token whose secret has the digest. -/
def find? (r : Registry) (digest : Digest) : Option Token := r.list.find? (·.digest = digest)

def shape : Json.Shape Registry where
  name := "InMemoryTokenStore"
  blank := empty
  fields :=
    [.of "next_id" Token.idFormat (fun nextId r => { r with nextId }) .required,
     .of "admin_ever_created" .bool (fun adminEverCreated r => { r with adminEverCreated })
       .required,
     .of "tokens" (Json.Format.numericMap "u64" Token.format TokenMap.insert .empty)
       (fun tokens r => { r with tokens }) .required]
  strict := false

def format : Json.Format Registry := shape.format

def toJson (r : Registry) : Json.Value :=
  .object
    [("next_id", .unsigned r.nextId), ("admin_ever_created", .bool r.adminEverCreated),
     ("tokens", .object (r.tokens.entries.map fun e => (toString e.1.toNat, e.2.toJson)))]

/-- The registry as it stands in its file. -/
def encode (r : Registry) : List UInt8 := Text.bytes r.toJson.prettyText

/-- Reads the content of a state file. -/
def decode (content : List UInt8) : Except Json.Error Registry := format.parse content

end Registry

end ZoneGate
