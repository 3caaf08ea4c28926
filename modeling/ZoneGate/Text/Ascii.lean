/-!
# Bytes with a meaning in ASCII

Wire formats are read byte by byte. Characters of the format are written as `byte 'c'`, and the
classes below are those of ASCII alone: every byte above 127 is outside all of them.
-/
namespace ZoneGate.Text

/-- The byte of an ASCII character. -/
def byte (c : Char) : UInt8 := c.val.toUInt8

def isDigit (b : UInt8) : Bool := byte '0' ≤ b && b ≤ byte '9'

def isLower (b : UInt8) : Bool := byte 'a' ≤ b && b ≤ byte 'z'

def isUpper (b : UInt8) : Bool := byte 'A' ≤ b && b ≤ byte 'Z'

def isAlphanumeric (b : UInt8) : Bool := isDigit b || isLower b || isUpper b

/-- The value of a digit; meaningful where `isDigit` holds. -/
def digitValue (b : UInt8) : Nat := b.toNat - (byte '0').toNat

/-- The number that a run of digits stands for, leading zeros allowed. -/
def decimal (digits : List UInt8) : Nat :=
  digits.foldl (fun n b => 10 * n + digitValue b) 0

/-- A non-empty run of digits as a number, and nothing else. -/
def decimal? (bytes : List UInt8) : Option Nat :=
  if bytes.isEmpty || !bytes.all isDigit then none else some (decimal bytes)

/-- A run of digits as a number, with or without a plus sign before it. -/
def plusDecimal? : List UInt8 → Option Nat
  | [] => none
  | b :: rest => decimal? (if b = byte '+' then rest else b :: rest)

/-- The bytes of a text in UTF-8. -/
def bytes (s : String) : List UInt8 := s.toByteArray.data.toList

/-- The text that the bytes spell in UTF-8, if they are well formed. -/
def ofBytes? (bs : List UInt8) : Option String := String.fromUTF8? ⟨bs.toArray⟩

/-- One byte with ASCII capitals folded to small letters. -/
def lower (b : UInt8) : UInt8 := if isUpper b then b + 32 else b

/-- A character with ASCII capitals folded to small letters. -/
def lowerChar (c : Char) : Char := if 'A' ≤ c && c ≤ 'Z' then c.toLower else c

/-- Equality of texts up to the case of ASCII letters. -/
def sameIgnoringCase (s t : String) : Bool :=
  s.toList.map lowerChar == t.toList.map lowerChar

/-- Whether `s` begins with `start`. -/
def startsWith (start s : String) : Bool := start.toList.isPrefixOf s.toList

/-- What follows `start` in `s`, if `s` begins with it. -/
def dropStart? (start s : String) : Option String :=
  if startsWith start s then some (String.ofList (s.toList.drop start.length)) else none

/-- The lists between the separators: one more than there are separators. -/
def splitAt {α : Type} [BEq α] (separator : α) : List α → List (List α)
  | [] => [[]]
  | c :: rest =>
    if c == separator then [] :: splitAt separator rest
    else
      match splitAt separator rest with
      | [] => [[c]]
      | part :: parts => (c :: part) :: parts

end ZoneGate.Text
