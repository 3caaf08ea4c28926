import ZoneGate.Permission
import ZoneGate.Secret
import ZoneGate.Time.Timestamp

/-!
# Tokens

A stored credential: who it was made for, whether it administers, what it may do otherwise, and the
digest of its secret.
-/
namespace ZoneGate

/-- Tokens are numbered in the order in which they are made. -/
abbrev TokenId := UInt64

structure Token where
  id : TokenId
  name : String
  isAdmin : Bool
  createdAt : Timestamp
  permissions : List Permission
  digest : Digest
  deriving DecidableEq

/-- A timestamp in JSON. -/
def Timestamp.expected : String := "an RFC3339-formatted `OffsetDateTime`"

def Timestamp.format : Json.Format Timestamp :=
  Json.Format.ofText Timestamp.expected fun s =>
    match Timestamp.parse (Text.bytes s) with
    | .ok t => .ok t
    | .error fault => .error fault.message

namespace Token

/-- The first permission for a zone. -/
def permission? (t : Token) (zone : ZoneId) : Option Permission :=
  t.permissions.find? fun p => p.zone = zone

def idFormat : Json.Format TokenId := Json.Format.unsigned "u64"

def shape : Json.Shape Token where
  name := "Token"
  blank := ⟨0, "", false, default, [], default⟩
  fields :=
    [.of "id" idFormat (fun id t => { t with id }) .required,
     .of "name" .string (fun name t => { t with name }) .required,
     .of "is_admin" .bool (fun isAdmin t => { t with isAdmin }) .required,
     .of "created_at" Timestamp.format (fun createdAt t => { t with createdAt }) .required,
     .of "permissions" Permission.format.list (fun permissions t => { t with permissions })
       .always,
     .of "secret_digest" Digest.format (fun digest t => { t with digest }) .required]
  strict := false

def format : Json.Format Token := shape.format

/-- What a listing shows of a token. -/
def summary (t : Token) : List (String × Json.Value) :=
  [("id", .unsigned t.id), ("name", .string t.name), ("is_admin", .bool t.isAdmin),
   ("created_at", .string t.createdAt.text)]

/-- A token as it is stored. -/
def toJson (t : Token) : Json.Value :=
  .object
    (t.summary ++
      [("permissions", .array (t.permissions.map Permission.toJson)),
       ("secret_digest", t.digest.toJson)])

end Token

/-- A checked token that has no id yet. -/
structure NewToken where
  name : String
  isAdmin : Bool
  permissions : List Permission
  deriving DecidableEq

end ZoneGate
