import ZoneGate.Action
import ZoneGate.RecordType

/-!
# Permissions

A zone of the provider's account is known by a positive number of 64 bits. In a path it is written
in digits alone, so that no sign or blank gives a zone a second spelling.

A permission says what a token may do in one zone: a set of actions and, as a gate of its own for
actions that write records, a set of record types.
-/
namespace ZoneGate

/-! ## Zone ids -/

structure ZoneId where
  val : UInt64
  val_ne_zero : val ≠ 0
  deriving DecidableEq

namespace ZoneId

def ofUInt64? (n : UInt64) : Option ZoneId := if h : n ≠ 0 then some ⟨n, h⟩ else none

/-- The id with a value between 1 and `2 ^ 64 - 1`. -/
def ofNat? (n : Nat) : Option ZoneId := if n < UInt64.size then ofUInt64? (UInt64.ofNat n) else none

/-- Reads a non-empty run of digits; leading zeros are allowed. -/
def parse? (s : String) : Option ZoneId := (Text.decimal? (Text.bytes s)).bind ofNat?

def text (zone : ZoneId) : String := toString zone.val.toNat

def ofScalar : Json.Scalar → Except Json.Misfit ZoneId
  | .number (.unsigned n) =>
    match ofUInt64? n with
    | some zone => .ok zone
    | none => .error .value
  | .number (.negative _) => .error .value
  | _ => .error .type

def format : Json.Format ZoneId := Json.Format.scalar "a nonzero u64" ofScalar

def toJson (zone : ZoneId) : Json.Value := .unsigned zone.val

end ZoneId

/-! ## Permissions of a zone -/

structure Permission where
  zone : ZoneId
  actions : Choice Action
  recordTypes : Choice RecordType
  deriving DecidableEq

namespace Permission

def allows (p : Permission) (action : Action) : Bool := action ∈ p.actions

/-- Whether the permission covers an action with the record type that it writes, if it names one.
Writing needs both the action and the type. -/
def permits (p : Permission) (action : Action) (recordType : Option RecordType) : Bool :=
  p.allows action &&
    (!action.writesRecord ||
      match recordType with
      | some t => decide (t ∈ p.recordTypes)
      | none => false)

def setOf {α : Type} [Listed α] [DecidableEq α] (format : Json.Format α) :
    Json.Format (Choice α) :=
  format.list.map Choice.ofList

def shape : Json.Shape Permission where
  name := "Permission"
  blank := ⟨⟨1, by decide⟩, .ofList [], .ofList []⟩
  fields :=
    [.of "zone_id" ZoneId.format (fun zone p => { p with zone }) .required,
     .of "allowed_actions" (setOf Action.format) (fun actions p => { p with actions }) .required,
     .of "record_types" (setOf RecordType.format)
       (fun recordTypes p => { p with recordTypes }) .required]
  strict := false

def format : Json.Format Permission := shape.format

def toJson (p : Permission) : Json.Value :=
  .object
    [("zone_id", p.zone.toJson),
     ("allowed_actions", .array (p.actions.toList.map Action.toJson)),
     ("record_types", .array (p.recordTypes.toList.map RecordType.toJson))]

end Permission

end ZoneGate
