import ZoneGate.Json.Reader

/-!
# How a type is read from JSON

A `Format` reads its type in two ways: from text, where the first thing wrong in reading order is
reported, and from a value that is already parsed. Formats of larger types are put together from
smaller ones: lists, options, names of alternatives, records and maps.
-/
namespace ZoneGate.Json

structure Format (α : Type) where
  /-- Reads the type from text. -/
  read : Reader α
  /-- Reads the type from a parsed value. -/
  ofValue : Value → Except Error α

/-- Why a scalar does not fit a type. -/
inductive Misfit where
  | type
  | value
  /-- The content of a string is ruled out, for a reason of its own. -/
  | content (reason : String)

def Misfit.error (found : Found) (expected : String) : Misfit → Error
  | type => .wrongType found expected
  | value => .wrongValue found expected
  | content reason => .rejected expected reason

namespace Format

/-- Reads a whole text. -/
def parse {α : Type} (f : Format α) (input : List UInt8) : Except Error α := f.read.run input

/-- Judges a scalar. -/
def fit {α : Type} (expected : String) (take : Scalar → Except Misfit α) (s : Scalar) :
    Except Error α :=
  match take s with
  | .ok a => .ok a
  | .error misfit => .error (misfit.error (.scalar s) expected)

/-- A type that is written as a scalar. -/
def scalar {α : Type} (expected : String) (take : Scalar → Except Misfit α) : Format α where
  read := do
    match ← Reader.opening with
    | .scalar s =>
      match fit expected take s with
      | .ok a => return a
      | .error e => throw e
    | other => throw (.wrongType other.found expected)
  ofValue
    | .scalar s => fit expected take s
    | other => .error (.wrongType other.found expected)

/-- The same text, read as a type that it determines. -/
def map {α β : Type} (f : α → β) (format : Format α) : Format β where
  read := return f (← format.read)
  ofValue v := (format.ofValue v).map f

/-- A whole number of 64 bits under a name of its own. -/
def unsigned (expected : String) : Format UInt64 :=
  scalar expected fun
    | .number (.unsigned n) => .ok n
    | .number (.negative _) => .error .value
    | _ => .error .type

def bool : Format Bool :=
  scalar "a boolean" fun
    | .bool b => .ok b
    | _ => .error .type

/-- A type that is written as a string, with the reason why a string is none of its texts. -/
def ofText {α : Type} (expected : String) (take : String → Except String α) : Format α :=
  scalar expected fun
    | .string s =>
      match take s with
      | .ok a => .ok a
      | .error reason => .error (.content reason)
    | _ => .error .type

def string : Format String := ofText "a string" .ok

/-- Reads elements of a parsed list in order. -/
def ofItems {α : Type} (take : Value → Except Error α) : List Value → Except Error (List α)
  | [] => .ok []
  | v :: rest =>
    match take v with
    | .error e => .error e
    | .ok a => (ofItems take rest).map (a :: ·)

def list {α : Type} (format : Format α) : Format (List α) where
  read := do
    match ← Reader.opening with
    | .array => Reader.list format.read
    | other => throw (.wrongType other.found "a sequence")
  ofValue
    | .array items => ofItems format.ofValue items
    | other => .error (.wrongType other.found "a sequence")

/-- `null` for nothing. -/
def option {α : Type} (format : Format α) : Format (Option α) where
  read := do
    if (← Reader.peek) = some (Text.byte 'n') then
      Reader.word "null".toList
      return none
    else return some (← format.read)
  ofValue
    | .scalar .null => .ok none
    | v => (format.ofValue v).map some

/-- The alternative of a given name. -/
def pick {α : Type} (options : List (String × α)) (name : String) : Except Error α :=
  match options.lookup name with
  | some a => .ok a
  | none => .error (.unknownVariant name (options.map (·.1)))

/-- Lifts a result into a reader. -/
def settle {α : Type} : Except Error α → Reader α
  | .ok a => return a
  | .error e => throw e

/-- Reads the `null` that an alternative without content carries. -/
def noContent : Reader Unit := do
  match ← Reader.opening with
  | .scalar .null => return
  | other => throw (.wrongType other.found "unit")

/-- One of several named alternatives: its name, or an object with the name as its only key and
`null` as its value. -/
def choice {α : Type} (options : List (String × α)) : Format α where
  read := do
    match ← Reader.peek with
    | none => throw .endInValue
    | some b =>
      if b = Text.byte '"' then settle (pick options (← Reader.key))
      else if b = openBrace then
        Reader.skip
        if !(← Reader.nextMember true) then throw .expectedValue
        let a ← settle (pick options (← Reader.key))
        Reader.colon
        noContent
        match ← Reader.peek with
        | none => throw .endInObject
        | some b =>
          if b ≠ closeBrace then throw .expectedValue
          Reader.skip
          return a
      else throw .expectedValue
  ofValue
    | .scalar (.string name) => pick options name
    | .object [(name, content)] =>
      match pick options name with
      | .error e => .error e
      | .ok a =>
        match content with
        | .scalar .null => .ok a
        | other => .error (.wrongType other.found "unit")
    | .object _ => .error .notSingleKey
    | other => .error (.wrongType other.found "string or map")

end Format

/-- What stands for a field that is not written. -/
inductive Fallback where
  /-- Nothing does: the field must be written. -/
  | required
  /-- Its blank value does in an object, but a list of fields must go as far as this one. -/
  | inObject
  /-- Its blank value does. -/
  | always
  deriving DecidableEq

/-- A field of a record: reading it sets it. -/
structure Field (ρ : Type) where
  name : String
  fallback : Fallback
  format : Format (ρ → ρ)

def Field.of {ρ β : Type} (name : String) (format : Format β) (set : β → ρ → ρ)
    (fallback : Fallback) : Field ρ :=
  ⟨name, fallback, format.map set⟩

/-- A record that is written as an object, or as the list of its fields in order. Reading starts
from `blank`, which holds the values of fields that may be left out. -/
structure Shape (ρ : Type) where
  name : String
  blank : ρ
  fields : List (Field ρ)
  /-- Whether members of other names are refused; otherwise they are passed over. -/
  strict : Bool

namespace Shape

variable {ρ : Type} (shape : Shape ρ)

def expected : String := "struct " ++ shape.name

/-- How a message about a missing element describes the list of fields. -/
def expectedLength : String :=
  shape.expected ++ " with " ++ toString shape.fields.length ++
    (if shape.fields.length = 1 then " element" else " elements")

/-- A record being read: the names read so far and the fields set so far. -/
structure Draft (ρ : Type) where
  seen : List String
  record : ρ

/-- One member of the object form. A name that is refused or repeated is reported before its
value is looked at. -/
def readMember (draft : Draft ρ) : Reader (Draft ρ) := do
  let name ← Reader.key
  match shape.fields.find? fun field => field.name = name with
  | some field =>
    if draft.seen.contains name then throw (.duplicateField name)
    Reader.colon
    let set ← field.format.read
    return ⟨name :: draft.seen, set draft.record⟩
  | none =>
    if shape.strict then throw (.unknownField name (shape.fields.map (·.name)))
    Reader.colon
    Reader.ignore
    return draft

/-- The finished record, unless a required field was not read. -/
def finish (draft : Draft ρ) : Except Error ρ :=
  match shape.fields.find? fun field =>
      field.fallback = .required && !draft.seen.contains field.name with
  | some field => .error (.missingField field.name)
  | none => .ok draft.record

/-- The list form from the field at `index` on. -/
def readFields : Nat → List (Field ρ) → ρ → Reader ρ
  | _, [], record => do
    Reader.endList
    return record
  | index, field :: rest, record => do
    if ← Reader.nextElement (index = 0) then
      let set ← field.format.read
      readFields (index + 1) rest (set record)
    else if field.fallback = .always then readFields (index + 1) rest record
    else throw (.wrongLength index shape.expectedLength)

/-- Members of a parsed object in order. -/
def ofMembers : List (String × Value) → Draft ρ → Except Error ρ
  | [], draft => shape.finish draft
  | (name, v) :: rest, draft =>
    match shape.fields.find? fun field => field.name = name with
    | some field =>
      if draft.seen.contains name then .error (.duplicateField name)
      else
        match field.format.ofValue v with
        | .error e => .error e
        | .ok set => ofMembers rest ⟨name :: draft.seen, set draft.record⟩
    | none =>
      if shape.strict then .error (.unknownField name (shape.fields.map (·.name)))
      else ofMembers rest draft

/-- Elements of a parsed list of `total` elements from the field at `index` on. -/
def ofElements (total : Nat) : Nat → List (Field ρ) → List Value → ρ → Except Error ρ
  | _, [], [], record => .ok record
  | _, [], _ :: _, _ => .error (.wrongLength total "fewer elements in array")
  | index, field :: rest, [], record =>
    if field.fallback = .always then ofElements total (index + 1) rest [] record
    else .error (.wrongLength index shape.expectedLength)
  | index, field :: rest, v :: vs, record =>
    match field.format.ofValue v with
    | .error e => .error e
    | .ok set => ofElements total (index + 1) rest vs (set record)

def format : Format ρ where
  read := do
    match ← Reader.opening with
    | .object => Format.settle (shape.finish (← Reader.object shape.readMember ⟨[], shape.blank⟩))
    | .array =>
      Reader.skip
      shape.readFields 0 shape.fields shape.blank
    | other => throw (.wrongType other.found shape.expected)
  ofValue
    | .object members => shape.ofMembers members ⟨[], shape.blank⟩
    | .array items => shape.ofElements items.length 0 shape.fields items shape.blank
    | other => .error (.wrongType other.found shape.expected)

end Shape

namespace Format

/-- A whole number of 64 bits between the quotes of a key. -/
def readNumericKey (expected : String) : Reader UInt64 := do
  Reader.skip
  match (← get).head? with
  | none => throw .keyNotNumber
  | some b =>
    if !(b = Text.byte '-' || Text.isDigit b) then throw .keyNotNumber
    let key ← (unsigned expected).read
    match (← get).head? with
    | none => throw .expectedQuote
    | some b =>
      if b ≠ Text.byte '"' then throw .expectedQuote
      Reader.skip
      return key

/-- The number that a parsed key spells. -/
def ofNumericKey (expected key : String) : Except Error UInt64 :=
  match (Text.bytes key).head? with
  | none => .error .keyNotNumber
  | some b =>
    if !(b = Text.byte '-' || Text.isDigit b) then .error .keyNotNumber
    else
      match (unsigned expected).read (Text.bytes key) with
      | .error e => .error e
      | .ok (n, []) => .ok n
      | .ok (_, _ :: _) => .error .keyNotNumber

/-- Members of a parsed map in order, folded into a value. -/
def ofEntries {α σ : Type} (expected : String) (take : Value → Except Error α)
    (insert : UInt64 → α → σ → σ) : List (String × Value) → σ → Except Error σ
  | [], s => .ok s
  | (key, v) :: rest, s => do
    let key ← ofNumericKey expected key
    ofEntries expected take insert rest (insert key (← take v) s)

/-- An object whose keys are numbers, folded into a value. -/
def numericMap {α σ : Type} (expected : String) (format : Format α)
    (insert : UInt64 → α → σ → σ) (empty : σ) : Format σ where
  read := do
    match ← Reader.opening with
    | .object =>
      Reader.object (fun s => do
        let key ← readNumericKey expected
        Reader.colon
        return insert key (← format.read) s) empty
    | other => throw (.wrongType other.found "a map")
  ofValue
    | .object members => ofEntries expected format.ofValue insert members empty
    | other => .error (.wrongType other.found "a map")

end Format

end ZoneGate.Json
