import ZoneGate.Json.Value
import ZoneGate.Text.Hex

/-!
# Writing JSON

Two layouts: everything on one line without blanks, or one member a line with an indent of two
spaces a level. Members are written in the order in which the value holds them.
-/
namespace ZoneGate.Json

namespace Printer

/-- One character inside a string. -/
def escape (c : Char) : List Char :=
  if c = '"' then ['\\', '"']
  else if c = '\\' then ['\\', '\\']
  else if c = '\x08' then ['\\', 'b']
  else if c = '\x0c' then ['\\', 'f']
  else if c = '\n' then ['\\', 'n']
  else if c = '\r' then ['\\', 'r']
  else if c = '\t' then ['\\', 't']
  else if c.toNat < 0x20 then ['\\', 'u', '0', '0'] ++ Text.Hex.pair (UInt8.ofNat c.toNat)
  else [c]

def string (s : String) : List Char := '"' :: s.toList.flatMap escape ++ ['"']

def scalar : Scalar → List Char
  | .null => "null".toList
  | .bool true => "true".toList
  | .bool false => "false".toList
  | .number (.unsigned n) => Nat.toDigits 10 n.toNat
  | .number (.negative n) => '-' :: Nat.toDigits 10 n.natAbs
  | .number (.float x) => (Decimal.text x).toList
  | .string s => string s

/-- Items with a comma between each two. -/
def joined : List (List Char) → List Char
  | [] => []
  | [item] => item
  | item :: rest => item ++ ',' :: joined rest

mutual

/-- A value on one line. -/
def compact : Value → List Char
  | .scalar s => scalar s
  | .array items => '[' :: joined (compactItems items) ++ [']']
  | .object members => '\x7b' :: joined (compactMembers members) ++ ['\x7d']

def compactItems : List Value → List (List Char)
  | [] => []
  | v :: rest => compact v :: compactItems rest

def compactMembers : List (String × Value) → List (List Char)
  | [] => []
  | (key, v) :: rest => (string key ++ ':' :: compact v) :: compactMembers rest

end

/-- A new line at a level of nesting. -/
def newline (level : Nat) : List Char := '\n' :: List.replicate (2 * level) ' '

/-- Lines between two brackets. Empty brackets stand together. -/
def bracketed (level : Nat) (start stop : Char) : List (List Char) → List Char
  | [] => [start, stop]
  | lines => start :: joined (lines.map (newline (level + 1) ++ ·)) ++ newline level ++ [stop]

mutual

/-- A value over several lines, which begins at a level of nesting. -/
def pretty (level : Nat) : Value → List Char
  | .scalar s => scalar s
  | .array items => bracketed level '[' ']' (prettyItems (level + 1) items)
  | .object members => bracketed level '\x7b' '\x7d' (prettyMembers (level + 1) members)

def prettyItems (level : Nat) : List Value → List (List Char)
  | [] => []
  | v :: rest => pretty level v :: prettyItems level rest

def prettyMembers (level : Nat) : List (String × Value) → List (List Char)
  | [] => []
  | (key, v) :: rest => (string key ++ ':' :: ' ' :: pretty level v) :: prettyMembers level rest

end

end Printer

/-- The value on one line. -/
def Value.text (v : Value) : String := String.ofList (Printer.compact v)

/-- The value over several lines. -/
def Value.prettyText (v : Value) : String := String.ofList (Printer.pretty 0 v)

end ZoneGate.Json
