import ZoneGate.Access
import ZoneGate.Action
import ZoneGate.Admin
import ZoneGate.Config
import ZoneGate.Crypto.Sha256
import ZoneGate.Decimal.Shortest
import ZoneGate.Directory
import ZoneGate.Endpoint
import ZoneGate.Error
import ZoneGate.Gateway
import ZoneGate.Grant
import ZoneGate.Http.Message
import ZoneGate.Http.Target
import ZoneGate.Http.Url
import ZoneGate.Http.Wire
import ZoneGate.Identity
import ZoneGate.Json.Error
import ZoneGate.Json.Format
import ZoneGate.Json.Numeral
import ZoneGate.Json.Printer
import ZoneGate.Json.Reader
import ZoneGate.Json.Value
import ZoneGate.Listed
import ZoneGate.Log.Directive
import ZoneGate.Log.Event
import ZoneGate.Log.Filter
import ZoneGate.Log.Level
import ZoneGate.Main
import ZoneGate.Net.SocketAddress
import ZoneGate.Permission
import ZoneGate.Proofs.Access.MasterKey
import ZoneGate.Proofs.Access.Permissions
import ZoneGate.Proofs.Access.Validity
import ZoneGate.Proofs.Endpoint.BodyType
import ZoneGate.Proofs.Endpoint.Grammar
import ZoneGate.Proofs.Gateway.Authority
import ZoneGate.Proofs.Gateway.Credentials
import ZoneGate.Proofs.Gateway.RecordTypes
import ZoneGate.Proofs.Gateway.RequestIds
import ZoneGate.Proofs.Gateway.Secrecy
import ZoneGate.Proofs.Json.Lookahead
import ZoneGate.Proofs.Json.Numerals
import ZoneGate.Proofs.Json.Places
import ZoneGate.Proofs.Json.Rounds
import ZoneGate.Proofs.Provider.Address
import ZoneGate.Proofs.Provider.Redirects
import ZoneGate.Proofs.Session.Administration
import ZoneGate.Proofs.Session.Revocation
import ZoneGate.Proofs.Vault.Consistency
import ZoneGate.Proofs.Vault.Crash
import ZoneGate.Proofs.Vault.Ledger
import ZoneGate.Proofs.Vault.Mirror
import ZoneGate.Provider
import ZoneGate.Provider.Wire
import ZoneGate.RecordType
import ZoneGate.Registry
import ZoneGate.Route
import ZoneGate.Secret
import ZoneGate.Startup
import ZoneGate.Text.Ascii
import ZoneGate.Text.Hex
import ZoneGate.Text.Pattern
import ZoneGate.Text.Pattern.Reader
import ZoneGate.Text.Quoted
import ZoneGate.Text.Unicode
import ZoneGate.Time.Timestamp
import ZoneGate.Token
import ZoneGate.TokenMap
import ZoneGate.Vault
