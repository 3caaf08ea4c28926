import ZoneGate.Json.Format
import ZoneGate.Listed

/-!
# Record types

The kinds of DNS record that the provider knows. Grants name them, and record bodies may give the
provider's numeric code instead; both lead to the same type.
-/
namespace ZoneGate

inductive RecordType where
  | a
  | aaaa
  | cname
  | txt
  | mx
  | redirect
  | flatten
  | pullZone
  | srv
  | caa
  | ptr
  | script
  | ns
  deriving DecidableEq, Repr

namespace RecordType

/-- Every type, in the order of the codes. -/
def all : List RecordType :=
  [a, aaaa, cname, txt, mx, redirect, flatten, pullZone, srv, caa, ptr, script, ns]

instance : Listed RecordType where
  all := all
  mem_all t := by cases t <;> decide
  nodup_all := by decide

def name : RecordType → String
  | a => "A"
  | aaaa => "AAAA"
  | cname => "CNAME"
  | txt => "TXT"
  | mx => "MX"
  | redirect => "REDIRECT"
  | flatten => "FLATTEN"
  | pullZone => "PULLZONE"
  | srv => "SRV"
  | caa => "CAA"
  | ptr => "PTR"
  | script => "SCRIPT"
  | ns => "NS"

/-- The provider's numeric code. -/
def code : RecordType → UInt64
  | a => 0
  | aaaa => 1
  | cname => 2
  | txt => 3
  | mx => 4
  | redirect => 5
  | flatten => 6
  | pullZone => 7
  | srv => 8
  | caa => 9
  | ptr => 10
  | script => 11
  | ns => 12

def ofCode? (n : UInt64) : Option RecordType := all.find? fun t => t.code = n

/-- The type of a name, in any mixture of capitals and small letters. -/
def ofName? (s : String) : Option RecordType :=
  all.find? fun t => Text.sameIgnoringCase t.name s

/-- The type that a name or numeric code in JSON stands for. -/
def ofScalar : Json.Scalar → Except Json.Misfit RecordType
  | .number (.unsigned n) =>
    match ofCode? n with
    | some t => .ok t
    | none => .error .value
  | .number (.negative _) => .error .value
  | .string s =>
    match ofName? s with
    | some t => .ok t
    | none => .error .value
  | _ => .error .type

def format : Json.Format RecordType :=
  Json.Format.scalar "a record type name or numeric code" ofScalar

def toJson (t : RecordType) : Json.Value := .string t.name

end RecordType

end ZoneGate
