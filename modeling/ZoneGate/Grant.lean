import ZoneGate.Text.Unicode
import ZoneGate.Token

/-!
# Grants

A grant is the request for a new token. Checking it gives a token with one permission for each zone
that it names, or tells the first rule that it breaks.
-/
namespace ZoneGate

structure Grant where
  name : String
  isAdmin : Bool
  zones : List ZoneId
  actions : List Action
  recordTypes : List RecordType

namespace Grant

def shape : Json.Shape Grant where
  name := "TokenGrant"
  blank := ⟨"", false, [], [], []⟩
  fields :=
    [.of "name" .string (fun name g => { g with name }) .required,
     .of "is_admin" .bool (fun isAdmin g => { g with isAdmin }) .always,
     .of "zones" ZoneId.format.list (fun zones g => { g with zones }) .always,
     .of "actions" Action.format.list (fun actions g => { g with actions }) .always,
     .of "record_types" RecordType.format.list (fun recordTypes g => { g with recordTypes })
       .always]
  strict := true

def format : Json.Format Grant := shape.format

/-- A rule that a grant breaks. -/
inductive Fault where
  | blankName
  /-- An administrator needs no grants and may have none. -/
  | adminWithGrants
  | noZones
  | noActions
  | noRecordTypes
  | adminOnlyAction (action : Action)
  deriving DecidableEq

def Fault.message : Fault → String
  | blankName => "token name is required"
  | adminWithGrants => "administrator tokens take no zone grants"
  | noZones => "scoped tokens require at least one zone"
  | noActions => "scoped tokens require at least one action"
  | noRecordTypes => "scoped tokens require at least one record type"
  | adminOnlyAction action =>
    "action " ++ action.name ++ " is administrator-only and can't be granted"

/-- Puts a zone among ascending zones, unless it is there. -/
def insertZone (zone : ZoneId) : List ZoneId → List ZoneId
  | [] => [zone]
  | z :: rest =>
    if zone.val < z.val then zone :: z :: rest
    else if zone = z then z :: rest
    else z :: insertZone zone rest

/-- The zones of a list in ascending order, each once. -/
def distinctZones (zones : List ZoneId) : List ZoneId := zones.foldr insertZone []

/-- One permission for each zone, all with the same actions and record types. -/
def permissions (g : Grant) : List Permission :=
  (distinctZones g.zones).map fun zone => ⟨zone, .ofList g.actions, .ofList g.recordTypes⟩

/-- Checks a grant and expands it. -/
def validate (g : Grant) : Except Fault NewToken :=
  let name := Text.trim g.name
  if name.isEmpty then .error .blankName
  else if g.isAdmin then
    if g.zones.isEmpty && g.actions.isEmpty && g.recordTypes.isEmpty then .ok ⟨name, true, []⟩
    else .error .adminWithGrants
  else if g.zones.isEmpty then .error .noZones
  else if g.actions.isEmpty then .error .noActions
  else if g.recordTypes.isEmpty then .error .noRecordTypes
  else
    match g.actions.find? Action.isAdminOnly with
    | some action => .error (.adminOnlyAction action)
    | none => .ok ⟨name, false, g.permissions⟩

end Grant

end ZoneGate
