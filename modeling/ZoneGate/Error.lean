import ZoneGate.Directory
import ZoneGate.Endpoint
import ZoneGate.Grant
import ZoneGate.Log.Filter

/-!
# Why a request fails

Every cause of failure is a constructor here; its wording and the events that it leaves in the log
are functions of it.
-/
namespace ZoneGate

/-- Why a known caller is refused. -/
inductive Denial where
  | forbidden
  /-- The master key no longer acts once an administrator token has been made. -/
  | masterKeyLocked
  deriving DecidableEq, Repr

def Denial.message : Denial → String
  | forbidden => "permission denied"
  | masterKeyLocked => "master_key_locked"

/-- The name of a reason in the log. -/
def Denial.label : Denial → String
  | forbidden => "Forbidden"
  | masterKeyLocked => "MasterKeyLocked"

/-- What is wrong with a configuration. -/
inductive ConfigFault where
  | noMasterKey
  | noHashKey
  | badBaseUrl (url : String)
  | unprintableMasterKey
  deriving DecidableEq

/-- The environment variable that stands in for the master key. -/
def masterKeyVariable : String := "ZONEWARDEN_MASTER_API_KEY"

def ConfigFault.message : ConfigFault → String
  | noMasterKey => "master_api_key is required (or set " ++ masterKeyVariable ++ ")"
  | noHashKey => "token_hash_key is required"
  | badBaseUrl url =>
    "upstream_base_url " ++ Text.Quoted.text url ++ " must be an http:// or https:// URL"
  | unprintableMasterKey => "master_api_key isn't a valid header value"

inductive Error where
  | missingKey
  /-- A key header that is no text. -/
  | unreadableKey
  /-- A key of no token, as logs show it. -/
  | unknownKey (masked : String)
  /-- A caller whose token has been deleted since it was recognised. -/
  | revokedCaller
  | unclassified (cause : Endpoint.Error)
  | denied (reason : Denial)
  | lastAdmin
  | noAdminYet
  | tokenNotFound (id : TokenId)
  | invalidGrant (fault : Grant.Fault)
  | badTokenId (text : String)
  | malformedRequest (cause : Json.Error)
  | invalidConfig (fault : ConfigFault)
  | file (cause : FileError)
  | invalidJson (cause : Json.Error)
  /-- The log filter is gone. -/
  | noLogFilter
  | provider (cause : String)

namespace Error

def message : Error → String
  | missingKey => "missing API key"
  | unreadableKey => "invalid API key"
  | unknownKey _ => "invalid API key"
  | revokedCaller => "invalid API key"
  | unclassified cause => cause.message
  | denied reason => reason.message
  | lastAdmin => "cannot_delete_last_admin"
  | noAdminYet => "no_admin_token_exists"
  | tokenNotFound id => "token " ++ toString id.toNat ++ " not found"
  | invalidGrant fault => "invalid request: " ++ fault.message
  | badTokenId text => "invalid request: invalid token id " ++ Text.Quoted.text text
  | malformedRequest cause => "malformed request body: " ++ cause.message
  | invalidConfig fault => "invalid config: " ++ fault.message
  | file _ => "an IO error occurred"
  | invalidJson _ => "invalid JSON"
  | noLogFilter => "log filter update failed"
  | provider _ => "upstream request failed"

/-- What lies beneath an error that has a cause of its own. -/
def cause? : Error → Option String
  | malformedRequest cause => some cause.message
  | file cause => some cause.message
  | invalidJson cause => some cause.message
  | noLogFilter => some "subscriber no longer exists"
  | provider cause => some cause
  | _ => none

/-- The message followed by its cause. -/
def fullMessage (e : Error) : String :=
  match e.cause? with
  | none => e.message
  | some cause => e.message ++ ": " ++ cause

/-- What an error leaves in the log by itself. -/
def events : Error → List Log.Event
  | unknownKey masked =>
    [⟨"zonewarden::auth::authenticator", .debug, "rejected unknown API key " ++ masked⟩]
  | _ => []

end Error

end ZoneGate
