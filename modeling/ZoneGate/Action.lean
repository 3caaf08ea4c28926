import ZoneGate.Json.Format
import ZoneGate.Listed

/-!
# Actions

What a caller can ask of the provider. The first six may be granted for single zones; the others
are for administrators only.
-/
namespace ZoneGate

inductive Action where
  | listZones
  | getZone
  | listRecords
  | addRecord
  | updateRecord
  | deleteRecord
  | createZone
  | updateZone
  | checkAvailability
  | importRecords
  | exportRecords
  | enableDnssec
  | disableDnssec
  | getStatistics
  | triggerScan
  | getScanResult
  | issueCertificate
  deriving DecidableEq, Repr

namespace Action

def all : List Action :=
  [listZones, getZone, listRecords, addRecord, updateRecord, deleteRecord, createZone, updateZone,
   checkAvailability, importRecords, exportRecords, enableDnssec, disableDnssec, getStatistics,
   triggerScan, getScanResult, issueCertificate]

instance : Listed Action where
  all := all
  mem_all action := by cases action <;> decide
  nodup_all := by decide

def name : Action → String
  | listZones => "list_zones"
  | getZone => "get_zone"
  | listRecords => "list_records"
  | addRecord => "add_record"
  | updateRecord => "update_record"
  | deleteRecord => "delete_record"
  | createZone => "create_zone"
  | updateZone => "update_zone"
  | checkAvailability => "check_availability"
  | importRecords => "import_records"
  | exportRecords => "export_records"
  | enableDnssec => "enable_dnssec"
  | disableDnssec => "disable_dnssec"
  | getStatistics => "get_statistics"
  | triggerScan => "trigger_scan"
  | getScanResult => "get_scan_result"
  | issueCertificate => "issue_certificate"

/-- Whether no grant may name the action. -/
def isAdminOnly : Action → Bool
  | listZones | getZone | listRecords | addRecord | updateRecord | deleteRecord => false
  | _ => true

/-- Whether the action writes a record, so that the type of the record matters too. -/
def writesRecord : Action → Bool
  | addRecord | updateRecord => true
  | _ => false

def format : Json.Format Action := Json.Format.choice (all.map fun action => (action.name, action))

def toJson (action : Action) : Json.Value := .string action.name

end Action

end ZoneGate
