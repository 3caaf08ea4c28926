import ZoneGate.Action
import ZoneGate.Http.Message
import ZoneGate.Json.Reader
import ZoneGate.Permission
import ZoneGate.RecordType

/-!
# Endpoints of the provider

The table of the provider's endpoints, and what a request asks for by it: an action, the zone it is
for, and the type of the record that it writes. A path may end in one slash. Zone and record ids
are positive numbers in plain digits.
-/
namespace ZoneGate

/-- What a request to the provider asks for. -/
structure Descriptor where
  action : Action
  /-- Absent for actions on the whole account. -/
  zone : Option ZoneId
  /-- Only for actions that write a record; a change may leave the type out. -/
  recordType : Option RecordType
  deriving DecidableEq

/-- A part of an endpoint's path. -/
inductive PathPart where
  | word (text : String)
  | zone
  | record
  deriving DecidableEq

structure Endpoint where
  method : Http.Method
  path : List PathPart
  action : Action

namespace Endpoint

/-- The endpoints, of which no two accept the same request. -/
def table : List Endpoint :=
  [⟨.get, [.word "dnszone"], .listZones⟩,
   ⟨.post, [.word "dnszone"], .createZone⟩,
   ⟨.post, [.word "dnszone", .word "checkavailability"], .checkAvailability⟩,
   ⟨.post, [.word "dnszone", .word "records", .word "scan"], .triggerScan⟩,
   ⟨.get, [.word "dnszone", .zone], .getZone⟩,
   ⟨.post, [.word "dnszone", .zone], .updateZone⟩,
   ⟨.get, [.word "dnszone", .zone, .word "records"], .listRecords⟩,
   ⟨.post, [.word "dnszone", .zone, .word "records"], .addRecord⟩,
   ⟨.get, [.word "dnszone", .zone, .word "records", .word "scan"], .getScanResult⟩,
   ⟨.post, [.word "dnszone", .zone, .word "records", .record], .updateRecord⟩,
   ⟨.delete, [.word "dnszone", .zone, .word "records", .record], .deleteRecord⟩,
   ⟨.post, [.word "dnszone", .zone, .word "import"], .importRecords⟩,
   ⟨.get, [.word "dnszone", .zone, .word "export"], .exportRecords⟩,
   ⟨.post, [.word "dnszone", .zone, .word "dnssec"], .enableDnssec⟩,
   ⟨.delete, [.word "dnszone", .zone, .word "dnssec"], .disableDnssec⟩,
   ⟨.get, [.word "dnszone", .zone, .word "statistics"], .getStatistics⟩,
   ⟨.post, [.word "dnszone", .zone, .word "certificate", .word "issue"], .issueCertificate⟩]

/-- Matches the segments of a path with the parts of an endpoint's path. The outer option tells
whether they match, the inner one is the zone that they name. -/
def matchPath : List PathPart → List String → Option (Option ZoneId)
  | [], [] => some none
  | .word text :: parts, segment :: segments =>
    if segment = text then matchPath parts segments else none
  | .zone :: parts, segment :: segments => do
    let zone ← ZoneId.parse? segment
    let _ ← matchPath parts segments
    return some zone
  | .record :: parts, segment :: segments => do
    let _ ← ZoneId.parse? segment
    matchPath parts segments
  | _, _ => none

/-- The segments between the slashes of a path, none of which may be empty. -/
def segments? (path : String) : Option (List String) :=
  match path.toList with
  | '/' :: rest =>
    let inner := if rest.getLast? = some '/' then rest.dropLast else rest
    let parts := Text.splitAt '/' inner
    if parts.any List.isEmpty then none else some (parts.map String.ofList)
  | _ => none

/-- The action and zone of a method and path, if some endpoint accepts them. -/
def find? (method : Http.Method) (path : String) : Option (Action × Option ZoneId) := do
  let segments ← segments? path
  table.findSome? fun endpoint =>
    if endpoint.method = method then
      (matchPath endpoint.path segments).map fun zone => (endpoint.action, zone)
    else none

inductive Error where
  | unrecognized (method : Http.Method) (path : String)
  | malformedBody (cause : Json.Error)
  | missingRecordType
  | invalidRecordType (cause : Json.Error)

def Error.message : Error → String
  | unrecognized method path => "unrecognized endpoint: " ++ method.name ++ " " ++ path
  | malformedBody cause => "malformed request body: " ++ cause.message
  | missingRecordType => "missing record type"
  | invalidRecordType cause => "invalid record type: " ++ cause.message

/-- The record type that a body names in its member `Type`. `null` names none. -/
def bodyRecordType (body : List UInt8) : Except Error (Option RecordType) :=
  match Json.Value.parse body with
  | .error e => .error (.malformedBody e)
  | .ok document =>
    match document.member? "Type" with
    | none => .ok none
    | some (.scalar .null) => .ok none
    | some v =>
      match RecordType.format.ofValue v with
      | .error e => .error (.invalidRecordType e)
      | .ok t => .ok (some t)

/-- The record type that a request with a given action names. Adding a record needs one. -/
def recordType (action : Action) (body : List UInt8) : Except Error (Option RecordType) :=
  if action.writesRecord then
    match bodyRecordType body with
    | .error e => .error e
    | .ok none => if action = .addRecord then .error .missingRecordType else .ok none
    | .ok (some t) => .ok (some t)
  else .ok none

/-- What a request asks for. Only the body of a request that writes a record is looked at. -/
def classify (method : Http.Method) (path : String) (body : List UInt8) :
    Except Error Descriptor :=
  match find? method path with
  | none => .error (.unrecognized method path)
  | some (action, zone) => (recordType action body).map fun t => ⟨action, zone, t⟩

end Endpoint

end ZoneGate
