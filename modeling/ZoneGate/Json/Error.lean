import ZoneGate.Json.Value

/-!
# What can be wrong with a JSON text

Each cause is a constructor, and `Error.message` is the one place that words it. Errors are told
apart by their causes alone: the line and column where something is wrong are left out.
-/
namespace ZoneGate.Json

inductive Error where
  /-- The text ends inside a value, a list, an object or a string. -/
  | endInValue
  | endInList
  | endInObject
  | endInString
  | expectedValue
  | expectedIdent
  | expectedColon
  | expectedCommaOrListEnd
  | expectedCommaOrObjectEnd
  | expectedQuote
  | keyNotString
  | trailingComma
  | trailingCharacters
  | invalidNumber
  | numberOutOfRange
  | invalidEscape
  | invalidCodePoint
  | controlCharacter
  | loneSurrogate
  | unpairedEscape
  | tooDeep
  /-- A key that should be a number does not begin like one. -/
  | keyNotNumber
  | wrongType (found : Found) (expected : String)
  | wrongValue (found : Found) (expected : String)
  | wrongLength (length : Nat) (expected : String)
  | notSingleKey
  | missingField (name : String)
  | duplicateField (name : String)
  | unknownField (name : String) (fields : List String)
  | unknownVariant (name : String) (variants : List String)
  /-- The text could not be read to its end. -/
  | unreadable (reason : String)
  /-- A string of the right type whose content `expected` rules out. -/
  | rejected (expected reason : String)

/-- The alternatives that a message offers. -/
def oneOf (names : List String) : String :=
  match names.map fun name => "`" ++ name ++ "`" with
  | [] => "nothing"
  | [one] => one
  | [one, two] => one ++ " or " ++ two
  | many => "one of " ++ ", ".intercalate many

/-- The wording of a cause. The suffix ` at line L column C`, which a full message has wherever the
cause was found in a text, is left out. -/
def Error.message : Error → String
  | endInValue => "EOF while parsing a value"
  | endInList => "EOF while parsing a list"
  | endInObject => "EOF while parsing an object"
  | endInString => "EOF while parsing a string"
  | expectedValue => "expected value"
  | expectedIdent => "expected ident"
  | expectedColon => "expected `:`"
  | expectedCommaOrListEnd => "expected `,` or `]`"
  | expectedCommaOrObjectEnd => "expected `,` or `\x7d`"
  | expectedQuote => "expected `\"`"
  | keyNotString => "key must be a string"
  | trailingComma => "trailing comma"
  | trailingCharacters => "trailing characters"
  | invalidNumber => "invalid number"
  | numberOutOfRange => "number out of range"
  | invalidEscape => "invalid escape"
  | invalidCodePoint => "invalid unicode code point"
  | controlCharacter => "control character (\\u0000-\\u001F) found while parsing a string"
  | loneSurrogate => "lone leading surrogate in hex escape"
  | unpairedEscape => "unexpected end of hex escape"
  | tooDeep => "recursion limit exceeded"
  | keyNotNumber => "invalid value: expected key to be a number in quotes"
  | wrongType found expected => "invalid type: " ++ found.text ++ ", expected " ++ expected
  | wrongValue found expected => "invalid value: " ++ found.text ++ ", expected " ++ expected
  | wrongLength length expected =>
    "invalid length " ++ toString length ++ ", expected " ++ expected
  | notSingleKey => "invalid value: map, expected map with a single key"
  | missingField name => "missing field `" ++ name ++ "`"
  | duplicateField name => "duplicate field `" ++ name ++ "`"
  | unknownField name fields => "unknown field `" ++ name ++ "`, expected " ++ oneOf fields
  | unknownVariant name variants =>
    "unknown variant `" ++ name ++ "`, expected " ++ oneOf variants
  | unreadable reason => reason
  | rejected _ reason => reason

end ZoneGate.Json
