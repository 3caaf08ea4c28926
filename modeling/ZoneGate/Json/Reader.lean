import ZoneGate.Json.Numeral
import ZoneGate.Text.Hex

/-!
# Reading JSON from bytes

A reader takes what it needs from the front of the remaining bytes or fails with the first thing
that is wrong. The tokens are blanks, words, strings and numerals, and the commas, colons and
brackets that join values. Strings are collected as bytes and checked to be UTF-8 once they are
closed. A document is any value nested up to 127 levels; its members are kept sorted by key, and of
members with one key the last counts.
-/
namespace ZoneGate.Json

open Text

/-- A computation on the remaining bytes. -/
abbrev Reader (α : Type) := StateT (List UInt8) (Except Error) α

/-- A blank of the format: space, tab, line feed or carriage return. -/
def isSpace (b : UInt8) : Bool := b = 0x20 || b = 0x09 || b = 0x0A || b = 0x0D

def openBrace : UInt8 := 0x7B

def closeBrace : UInt8 := 0x7D

namespace Reader

/-- Runs a step that is written on the bytes themselves. -/
def ofStep {α : Type} (step : List UInt8 → Except Error (α × List UInt8)) : Reader α :=
  fun input => step input

/-- The next byte that is not blank, still to be read. -/
def peek : Reader (Option UInt8) := do
  modify fun input => input.dropWhile isSpace
  return (← get).head?

/-- Drops one byte. -/
def skip : Reader Unit := modify fun input => input.drop 1

/-- The bytes still to be read. A loop that takes at least one of them in every round runs along
this list, so that it needs no other bound. -/
def remaining : Reader (List UInt8) := get

/-- Reads the given letters. -/
def word : List Char → Reader Unit
  | [] => return
  | c :: rest => do
    match ← get with
    | [] => throw .endInValue
    | b :: input =>
      if b ≠ byte c then throw .expectedIdent
      set input
      word rest

/-- The character of a one-letter escape. -/
def shortEscape? (b : UInt8) : Option Char :=
  if b = byte '"' then some '"'
  else if b = byte '\\' then some '\\'
  else if b = byte '/' then some '/'
  else if b = byte 'b' then some '\x08'
  else if b = byte 'f' then some '\x0c'
  else if b = byte 'n' then some '\n'
  else if b = byte 'r' then some '\r'
  else if b = byte 't' then some '\t'
  else none

/-- Four hexadecimal digits. -/
def codeUnit : List UInt8 → Except Error (Nat × List UInt8)
  | a :: b :: c :: d :: rest =>
    match Hex.digit? a, Hex.digit? b, Hex.digit? c, Hex.digit? d with
    | some a, some b, some c, some d => .ok (((a * 16 + b) * 16 + c) * 16 + d, rest)
    | _, _, _, _ => .error .invalidEscape
  | _ => .error .endInString

/-- A byte that must follow inside a string. -/
def expectInEscape (c : Char) : List UInt8 → Except Error (List UInt8)
  | [] => .error .endInString
  | b :: rest => if b = byte c then .ok rest else .error .unpairedEscape

/-- The character of `\u` escapes. Beyond the basic plane it takes a pair of them. -/
def unicodeEscape (input : List UInt8) : Except Error (Char × List UInt8) := do
  let (high, rest) ← codeUnit input
  if 0xDC00 ≤ high && high ≤ 0xDFFF then throw .loneSurrogate
  if high < 0xD800 || 0xDBFF < high then return (Char.ofNat high, rest)
  let rest ← expectInEscape '\\' rest
  let rest ← expectInEscape 'u' rest
  let (low, rest) ← codeUnit rest
  if low < 0xDC00 || 0xDFFF < low then throw .loneSurrogate
  return (Char.ofNat (0x10000 + (high - 0xD800) * 0x400 + (low - 0xDC00)), rest)

/-- The character of the escape that follows a backslash. -/
def escape : List UInt8 → Except Error (Char × List UInt8)
  | [] => .error .endInString
  | b :: rest =>
    match shortEscape? b with
    | some c => .ok (c, rest)
    | none => if b = byte 'u' then unicodeEscape rest else .error .invalidEscape

/-- The bytes of a string up to its closing quote. The first argument is as long as the input and
bounds the rounds; `done` holds the bytes read so far, in reverse. -/
def stringBody : List UInt8 → List UInt8 → List UInt8 → Except Error (List UInt8 × List UInt8)
  | [], _, _ => .error .endInString
  | _ :: _, _, [] => .error .endInString
  | _ :: bound, done, b :: rest =>
    if b = byte '"' then .ok (done.reverse, rest)
    else if b = byte '\\' then
      match escape rest with
      | .error e => .error e
      | .ok (c, rest) => stringBody bound ((String.utf8EncodeChar c).reverse ++ done) rest
    else if b < 0x20 then .error .controlCharacter
    else stringBody bound (b :: done) rest

/-- Reads a string whose opening quote has been read. -/
def string : Reader String := do
  let body ← ofStep fun input => stringBody input [] input
  match ofBytes? body with
  | some s => return s
  | none => throw .invalidCodePoint

/-- Reads a numeral and gives its number. -/
def number : Reader Number := do
  let numeral ← ofStep (Numeral.scan .endInValue)
  match numeral.value with
  | .ok n => return n
  | .error e => throw e

/-- How a value begins: a whole scalar, which has been read, or a bracket, which has not. -/
inductive Opening where
  | scalar (s : Scalar)
  | array
  | object

/-- Reads a scalar, or stops before the bracket of an array or object. -/
def opening : Reader Opening := do
  match ← peek with
  | none => throw .endInValue
  | some b =>
    if b = byte '"' then
      skip
      return .scalar (.string (← string))
    else if b = byte '-' || isDigit b then return .scalar (.number (← number))
    else if b = byte 'n' then
      word "null".toList
      return .scalar .null
    else if b = byte 't' then
      word "true".toList
      return .scalar (.bool true)
    else if b = byte 'f' then
      word "false".toList
      return .scalar (.bool false)
    else if b = byte '[' then return .array
    else if b = openBrace then return .object
    else throw .expectedValue

def Opening.found : Opening → Found
  | scalar s => .scalar s
  | array => .array
  | object => .object

/-- Whether a list goes on. What separates its elements has been read then; its closing bracket
has not. -/
def nextElement (first : Bool) : Reader Bool := do
  match ← peek with
  | none => throw .endInList
  | some b =>
    if b = byte ']' then return false
    else if first then return true
    else if b = byte ',' then
      skip
      match ← peek with
      | none => throw .endInValue
      | some b => if b = byte ']' then throw .trailingComma else return true
    else throw .expectedCommaOrListEnd

/-- Reads the closing bracket of a list, where nothing else may stand any more. -/
def endList : Reader Unit := do
  match ← peek with
  | none => throw .endInList
  | some b =>
    if b = byte ']' then skip
    else if b = byte ',' then
      skip
      if (← peek) = some (byte ']') then throw .trailingComma else throw .trailingCharacters
    else throw .trailingCharacters

/-- Whether an object goes on. The quote that opens the next key is still to be read then. -/
def nextMember (first : Bool) : Reader Bool := do
  match ← peek with
  | none => throw .endInObject
  | some b =>
    if b = closeBrace then return false
    else if first then
      if b = byte '"' then return true else throw .keyNotString
    else if b = byte ',' then
      skip
      match ← peek with
      | none => throw .endInValue
      | some b =>
        if b = byte '"' then return true
        else if b = closeBrace then throw .trailingComma
        else throw .keyNotString
    else throw .expectedCommaOrObjectEnd

/-- Reads the colon after a key. -/
def colon : Reader Unit := do
  match ← peek with
  | none => throw .endInObject
  | some b => if b = byte ':' then skip else throw .expectedColon

/-- The elements of a list whose opening bracket has been read; `done` holds those read so far, in
reverse. -/
def elements {α : Type} (element : Reader α) : List UInt8 → List α → Reader (List α)
  | [], _ => throw .endInList
  | _ :: bound, done => do
    if ← nextElement done.isEmpty then elements element bound ((← element) :: done)
    else
      skip
      return done.reverse

/-- A list whose opening bracket has not been read. -/
def list {α : Type} (element : Reader α) : Reader (List α) := do
  skip
  elements element (← remaining) []

/-- The members of an object whose opening brace has been read, folded into a value. `member` is
called before the quote of a key and reads up to the end of its value. -/
def members {σ : Type} (member : σ → Reader σ) : List UInt8 → Bool → σ → Reader σ
  | [], _, _ => throw .endInObject
  | _ :: bound, first, s => do
    if ← nextMember first then members member bound false (← member s)
    else
      skip
      return s

/-- An object whose opening brace has not been read. -/
def object {σ : Type} (member : σ → Reader σ) (s : σ) : Reader σ := do
  skip
  members member (← remaining) true s

/-- A key, from its opening quote on. -/
def key : Reader String := do
  skip
  string

/-- Passes over a string of which only the form is looked at. The first argument bounds the
rounds. -/
def skipString : List UInt8 → List UInt8 → Except Error (Unit × List UInt8)
  | [], _ => .error .endInString
  | _ :: _, [] => .error .endInString
  | _ :: bound, b :: rest =>
    if b = byte '"' then .ok ((), rest)
    else if b = byte '\\' then
      match rest with
      | [] => .error .endInString
      | c :: rest =>
        if (shortEscape? c).isSome then skipString bound rest
        else if c = byte 'u' then
          match codeUnit rest with
          | .error e => .error e
          | .ok (_, rest) => skipString bound rest
        else .error .invalidEscape
    else if b < 0x20 then .error .controlCharacter
    else skipString bound rest

/-- Passes over a string whose opening quote has been read. -/
def ignoreString : Reader Unit := ofStep fun input => skipString input input

/-- A bracket that is still open. -/
inductive Bracket where
  | list
  | object
  deriving DecidableEq

namespace Bracket

def close : Bracket → UInt8
  | list => byte ']'
  | object => closeBrace

/-- The error where the text ends inside the bracket. -/
def atEnd : Bracket → Error
  | list => .endInList
  | object => .endInObject

/-- The error where neither a comma nor the closing bracket follows a value. -/
def noComma : Bracket → Error
  | list => .expectedCommaOrListEnd
  | object => .expectedCommaOrObjectEnd

end Bracket

/-- Passes over a key and its colon, of which only the form is looked at. -/
def ignoreKey : Reader Unit := do
  match ← peek with
  | none => throw .endInObject
  | some b =>
    if b ≠ byte '"' then throw .keyNotString
    skip
    ignoreString
    colon

/-- Passes over a scalar, or over an opening bracket, which it gives back. -/
def ignoreOpening : Reader (Option Bracket) := do
  match ← peek with
  | none => throw .endInValue
  | some b =>
    if b = byte '"' then
      skip
      ignoreString
      return none
    else if b = byte '-' || isDigit b then
      let _ ← ofStep (Numeral.scan .invalidNumber)
      return none
    else if b = byte 'n' then
      word "null".toList
      return none
    else if b = byte 't' then
      word "true".toList
      return none
    else if b = byte 'f' then
      word "false".toList
      return none
    else if b = byte '[' then
      skip
      return some .list
    else if b = openBrace then
      skip
      return some .object
    else throw .expectedValue

/-- Passes over everything up to the end of the outermost open bracket. `first` tells that the
innermost one has just been opened. -/
def ignoreInside : List UInt8 → Bool → List Bracket → Reader Unit
  | _, _, [] => return
  | [], _, bracket :: _ => throw bracket.atEnd
  | _ :: bound, first, bracket :: outer => do
    match ← peek with
    | none => throw bracket.atEnd
    | some b =>
      if b = bracket.close then
        skip
        ignoreInside bound false outer
      else
        if !first then
          if b = byte ',' then skip else throw bracket.noComma
        if bracket = .object then ignoreKey
        match ← ignoreOpening with
        | none => ignoreInside bound false (bracket :: outer)
        | some inner => ignoreInside bound true (inner :: bracket :: outer)

/-- Passes over one value of which only the form is looked at: neither the range of numbers nor the
content of strings matters, and brackets nest without limit. -/
def ignore : Reader Unit := do
  match ← ignoreOpening with
  | none => return
  | some bracket => ignoreInside (← remaining) true [bracket]

/-- Runs a reader on a whole text, after which only blanks may follow. -/
def run {α : Type} (reader : Reader α) (input : List UInt8) : Except Error α :=
  match reader input with
  | .error e => .error e
  | .ok (a, rest) =>
    if (rest.dropWhile isSpace).isEmpty then .ok a else .error .trailingCharacters

/-! ## Documents -/

/-- A value with at most `depth` levels of brackets. -/
def value : Nat → Reader Value
  | 0 => do
    match ← opening with
    | .scalar s => return .scalar s
    | _ => throw .tooDeep
  | depth + 1 => do
    match ← opening with
    | .scalar s => return .scalar s
    | .array => return .array (← list (value depth))
    | .object =>
      let members ← object (fun members => do
        let key ← key
        colon
        return insertMember key (← value depth) members) []
      return .object members

end Reader

/-- How deep brackets may nest. -/
def maxDepth : Nat := 127

/-- Reads a whole document. -/
def Value.parse (input : List UInt8) : Except Error Value :=
  (Reader.value maxDepth).run input

end ZoneGate.Json
