import ZoneGate.Decimal.Shortest
import ZoneGate.Text.Quoted

/-!
# JSON values

Numbers keep the kind in which they were written: whole numbers of 64 bits, negative ones, and
floats for everything else. Objects keep their members in the order in which they are to be read
or written.
-/
namespace ZoneGate.Json

/-- A number by its kind. A `negative` one lies between `-2 ^ 63` and `-1`. -/
inductive Number where
  | unsigned (n : UInt64)
  | negative (n : Int)
  | float (x : Float)

/-- A value without parts. -/
inductive Scalar where
  | null
  | bool (b : Bool)
  | number (n : Number)
  | string (s : String)

inductive Value where
  | scalar (s : Scalar)
  | array (items : List Value)
  | object (members : List (String × Value))

instance : Inhabited Value := ⟨.scalar .null⟩

namespace Value

def null : Value := .scalar .null

def bool (b : Bool) : Value := .scalar (.bool b)

def string (s : String) : Value := .scalar (.string s)

def unsigned (n : UInt64) : Value := .scalar (.number (.unsigned n))

/-- The member of an object by its key; other values have none. -/
def member? (key : String) : Value → Option Value
  | .object members => members.lookup key
  | _ => none

/-- The text of a string value. -/
def text? : Value → Option String
  | .scalar (.string s) => some s
  | _ => none

end Value

/-- Puts a member among members sorted by key. An earlier member with that key is replaced. -/
def insertMember (key : String) (value : Value) :
    List (String × Value) → List (String × Value)
  | [] => [(key, value)]
  | (k, v) :: rest =>
    if key < k then (key, value) :: (k, v) :: rest
    else if key = k then (key, value) :: rest
    else (k, v) :: insertMember key value rest

/-- What stands where another kind of value was expected. -/
inductive Found where
  | scalar (s : Scalar)
  | array
  | object

/-- How a message names what was found. -/
def Found.text : Found → String
  | .scalar .null => "null"
  | .scalar (.bool b) => "boolean `" ++ (if b then "true" else "false") ++ "`"
  | .scalar (.number (.unsigned n)) => "integer `" ++ toString n.toNat ++ "`"
  | .scalar (.number (.negative n)) => "integer `" ++ toString n ++ "`"
  | .scalar (.number (.float x)) => "floating point `" ++ Decimal.text x ++ "`"
  | .scalar (.string s) => "string " ++ Text.Quoted.text s
  | .array => "sequence"
  | .object => "map"

def Value.found : Value → Found
  | .scalar s => .scalar s
  | .array _ => .array
  | .object _ => .object

end ZoneGate.Json
