import ZoneGate.Http.Target
import ZoneGate.Json.Printer
import ZoneGate.Text.Hex

/-!
# Requests and responses

A method is a case-sensitive name of letters, digits and a few marks; some marks that a header name
may hold are refused. Header names are compared without regard to case and kept in small letters. A
value is a run of bytes without controls, which need not be text. Of repeated headers the first
counts.

Every request has an id, which its response and its log entries carry. A caller may choose it, as
long as it is short and plain.
-/
namespace ZoneGate.Http

/-! ## Methods -/

structure Method where
  name : String
  deriving DecidableEq, Repr

namespace Method

def get : Method := ⟨"GET"⟩

def head : Method := ⟨"HEAD"⟩

def post : Method := ⟨"POST"⟩

def delete : Method := ⟨"DELETE"⟩

/-- Whether a character may stand in a method. -/
def isNameChar (c : Char) : Bool := c.isAlphanum || "!*+-.^_`|~".toList.contains c

/-- The method of a name, if it may be one. -/
def ofText? (name : String) : Option Method :=
  if name.isEmpty || !name.toList.all isNameChar then none else some ⟨name⟩

end Method

/-! ## Headers -/

structure Header where
  /-- In small letters. -/
  name : String
  value : List UInt8
  deriving DecidableEq

namespace Header

/-- A byte that may stand in a value: anything but a control, tabs excepted. -/
def isValueByte (b : UInt8) : Bool := (0x20 ≤ b && b ≠ 0x7F) || b = 0x09

/-- A byte of a value that is text: visible ASCII, space or tab. -/
def isTextByte (b : UInt8) : Bool := (0x20 ≤ b && b < 0x7F) || b = 0x09

/-- Whether a character may stand in a name. -/
def isNameChar (c : Char) : Bool := c.isAlphanum || "!\"#$%&'*+-.^_`|~".toList.contains c

/-- The longest name. -/
def maxNameLength : Nat := 65535

/-- The header of a name and value, if both may be sent. -/
def of? (name : String) (value : List UInt8) : Option Header :=
  if name.isEmpty || maxNameLength < name.length || !name.toList.all isNameChar ||
      !value.all isValueByte then none
  else some ⟨String.ofList (name.toList.map Text.lowerChar), value⟩

end Header

/-- The value as text, if it is text. -/
def headerText? (value : List UInt8) : Option String :=
  if value.all Header.isTextByte then Text.ofBytes? value else none

/-- The first value of a name, which is given in small letters. -/
def firstHeader? (headers : List Header) (name : String) : Option (List UInt8) :=
  (headers.find? fun h => h.name = name).map (·.value)

/-! ## Messages -/

structure Request where
  method : Method
  target : Target
  headers : List Header
  body : List UInt8

structure Response where
  status : Nat
  contentType : Option (List UInt8)
  /-- The methods of a path, where the request's method is none of them. -/
  allow : Option String
  requestId : String
  body : List UInt8
  deriving DecidableEq

/-- What a response carries. -/
inductive Content where
  | nothing
  | json (v : Json.Value)
  | text (s : String)
  /-- Bytes with the type that came with them, if one did. -/
  | relayed (contentType : Option (List UInt8)) (body : List UInt8)

namespace Content

def contentType : Content → Option (List UInt8)
  | nothing => none
  | json _ => some (Text.bytes "application/json")
  | text _ => some (Text.bytes "text/plain; charset=utf-8")
  | relayed contentType _ => contentType

def body : Content → List UInt8
  | nothing => []
  | json v => Text.bytes v.text
  | text s => Text.bytes s
  | relayed _ body => body

end Content

/-! ## Ids -/

namespace RequestId

def headerName : String := "x-request-id"

def maxLength : Nat := 128

def isPlainByte (b : UInt8) : Bool :=
  Text.isAlphanumeric b || b = Text.byte '-' || b = Text.byte '_' || b = Text.byte '.'

/-- Whether a chosen id is kept. -/
def isValid (id : List UInt8) : Bool :=
  !id.isEmpty && id.length ≤ maxLength && id.all isPlainByte

/-- The id of a request: the one that its first header chooses, if it is kept, and otherwise a
fresh one. -/
def choose (headers : List Header) (fresh : String) : String :=
  match firstHeader? headers headerName with
  | none => fresh
  | some id => if isValid id then (headerText? id).getD fresh else fresh

/-- How many random bytes an id takes. -/
def size : Nat := 16

/-- The id made of random bytes: a random UUID in groups of digits. -/
def ofRandom (bytes : List UInt8) : String :=
  let marked := bytes.mapIdx fun i b =>
    if i = 6 then b &&& 0x0F ||| 0x40 else if i = 8 then b &&& 0x3F ||| 0x80 else b
  let group (start count : Nat) : String := Text.Hex.encode ((marked.drop start).take count)
  "-".intercalate [group 0 4, group 4 2, group 6 2, group 8 2, group 10 6]

end RequestId

end ZoneGate.Http
