import ZoneGate.Endpoint
import ZoneGate.Proofs.Json.Places

/-!
# The record type of a body

A body names its record type in the last of its members `Type`, as the code of the type or as its
name. The rest of the body does not matter, and neither does which of the two is written.
-/
namespace ZoneGate

open Text

namespace RecordType

/-- What is said of a value that stands for no type. -/
def refusal (v : Json.Value) : Json.Error :=
  match v with
  | .scalar (.number (.unsigned _)) | .scalar (.number (.negative _)) | .scalar (.string _) =>
    .wrongValue v.found "a record type name or numeric code"
  | _ => .wrongType v.found "a record type name or numeric code"

variable {t : RecordType} {s : String} {v : Json.Value}

/-- The type that a value stands for. -/
def named? : Json.Value → Option RecordType
  | .scalar (.number (.unsigned n)) => ofCode? n
  | .scalar (.string s) => ofName? s
  | _ => none

end RecordType

namespace Endpoint

section

variable {body other : List UInt8} {document v : Json.Value} {action : Action}

end

end Endpoint

end ZoneGate
