import ZoneGate.Error
import ZoneGate.Net.SocketAddress
import ZoneGate.Vault

/-!
# Configuration

The service is configured by a JSON file. A master key that is blank there is taken from the
environment, and the result is checked before it is used.
-/
namespace ZoneGate

structure Config where
  /-- The provider's account key, which is also the bootstrap credential. -/
  masterKey : String
  hashKey : String
  /-- The state file; without it tokens are not kept. -/
  statePath : Option String
  bindAddress : Net.SocketAddress
  /-- In seconds, as is the provider's timeout. -/
  timeout : UInt64
  baseUrl : String
  providerTimeout : UInt64
  maxBodyBytes : UInt64

namespace Config

/-- The values of fields that may be left out. -/
def blank : Config where
  masterKey := ""
  hashKey := ""
  statePath := none
  bindAddress := .v4 127 0 0 1 0
  timeout := 0
  baseUrl := "https://api.bunny.net"
  providerTimeout := 30
  maxBodyBytes := 1048576

def addressFormat : Json.Format Net.SocketAddress :=
  .ofText "socket address" fun s =>
    match Net.SocketAddress.parse? s with
    | some address => .ok address
    | none => .error "invalid socket address syntax"

def shape : Json.Shape Config where
  name := "Config"
  blank := blank
  fields :=
    [.of "master_api_key" .string (fun masterKey c => { c with masterKey }) .always,
     .of "token_hash_key" .string (fun hashKey c => { c with hashKey }) .required,
     .of "token_store_state_path" (.option .string) (fun statePath c => { c with statePath })
       .inObject,
     .of "api_bind_addr" addressFormat (fun bindAddress c => { c with bindAddress }) .required,
     .of "api_timeout" (.unsigned "u64") (fun timeout c => { c with timeout }) .required,
     .of "upstream_base_url" .string (fun baseUrl c => { c with baseUrl }) .always,
     .of "upstream_timeout" (.unsigned "u64") (fun providerTimeout c => { c with providerTimeout })
       .always,
     .of "max_body_bytes" (.unsigned "usize") (fun maxBodyBytes c => { c with maxBodyBytes })
       .always]
  strict := false

def format : Json.Format Config := shape.format

/-- The first thing that is wrong with a configuration. -/
def fault? (c : Config) : Option ConfigFault :=
  if Text.allBlank c.masterKey then some .noMasterKey
  else if Text.allBlank c.hashKey then some .noHashKey
  else if !(Text.startsWith "https://" c.baseUrl || Text.startsWith "http://" c.baseUrl) then
    some (.badBaseUrl c.baseUrl)
  else none

def validate (c : Config) : Except Error Unit :=
  match c.fault? with
  | some fault => .error (.invalidConfig fault)
  | none => .ok ()

/-- Takes the master key from the environment where the file has none. -/
def withEnvironment (c : Config) (masterKey : Option String) : Config :=
  if Text.allBlank c.masterKey then { c with masterKey := masterKey.getD "" } else c

/-- Reads and checks the content of a configuration file. A folder can be opened like a file and
only fails to be read. -/
def load (content : Except FileError (List UInt8)) (masterKey : Option String) :
    Except Error Config :=
  match content with
  | .error .isDirectory => .error (.invalidJson (.unreadable FileError.isDirectory.message))
  | .error e => .error (.file e)
  | .ok content =>
    match format.parse content with
    | .error e => .error (.invalidJson e)
    | .ok c =>
      let c := c.withEnvironment masterKey
      c.validate.map fun _ => c

def hasher (c : Config) : Hasher := .ofKey c.hashKey

/-- What is logged when the tokens are loaded. -/
def openingEvents (c : Config) : List Log.Event :=
  let target := "zonewarden::config"
  match c.statePath with
  | some path => [⟨target, .info, "loading token state from " ++ path⟩]
  | none =>
    [⟨target, .warn, "no token_store_state_path configured, tokens won't persist"⟩]

/-- A number of seconds as logs show it; none at all is shown in the smallest unit. -/
def seconds (n : UInt64) : String := if n = 0 then "0ns" else toString n.toNat ++ "s"

/-- The configuration as logs show it, without its keys. -/
def debug (c : Config) : String :=
  let path :=
    match c.statePath with
    | none => "None"
    | some path => "Some(" ++ Text.Quoted.text path ++ ")"
  let fields : List (String × String) :=
    [("master_api_key", Text.Quoted.text "<redacted>"),
     ("token_hash_key", Text.Quoted.text "<redacted>"),
     ("token_store_state_path", path), ("api_bind_addr", c.bindAddress.text),
     ("api_timeout", seconds c.timeout), ("upstream_base_url", Text.Quoted.text c.baseUrl),
     ("upstream_timeout", seconds c.providerTimeout),
     ("max_body_bytes", toString c.maxBodyBytes.toNat)]
  "Config \x7b " ++ ", ".intercalate (fields.map fun f => f.1 ++ ": " ++ f.2) ++ " \x7d"

end Config

end ZoneGate
