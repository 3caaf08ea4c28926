import ZoneGate.Text.Hex

/-!
# Socket addresses

An internet address of either version with a port. Reading takes every usual spelling of an
address, and writing uses the one canonical form.
-/
namespace ZoneGate.Net

open Text

/-- A version 6 address has eight groups; `scope` is zero where no scope is named. -/
inductive SocketAddress where
  | v4 (a b c d : UInt8) (port : UInt16)
  | v6 (groups : List UInt16) (scope : UInt32) (port : UInt16)
  deriving DecidableEq, Repr

namespace SocketAddress

/-- A step that takes something from the front of the text, or does not apply. -/
abbrev Step (α : Type) := StateT (List UInt8) Option α

/-- Takes one given character. -/
def one (c : Char) : Step Unit := do
  match ← get with
  | b :: rest => if b = byte c then set rest else failure
  | [] => failure

/-- A decimal number below a bound, of any length and with leading zeros. -/
def number (bound : Nat) : Step Nat := do
  let run := (← get).takeWhile isDigit
  if run.isEmpty || bound ≤ decimal run then failure
  modify (·.dropWhile isDigit)
  return decimal run

/-- A part of a version 4 address: up to three digits and no leading zero. -/
def octet : Step UInt8 := do
  let run := (← get).takeWhile isDigit
  if run.isEmpty || 3 < run.length || (1 < run.length && run.head? = some (byte '0')) ||
      256 ≤ decimal run then failure
  modify (·.dropWhile isDigit)
  return UInt8.ofNat (decimal run)

def octets : Step (UInt8 × UInt8 × UInt8 × UInt8) := do
  let a ← octet
  one '.'
  let b ← octet
  one '.'
  let c ← octet
  one '.'
  let d ← octet
  return (a, b, c, d)

def port : Step UInt16 := do
  one ':'
  return UInt16.ofNat (← number 65536)

def isHexDigit (b : UInt8) : Bool := (Hex.digit? b).isSome

/-- A group of a version 6 address: up to four hexadecimal digits. -/
def group : Step UInt16 := do
  let run := (← get).takeWhile isHexDigit
  if run.isEmpty || 4 < run.length then failure
  modify (·.dropWhile isHexDigit)
  return UInt16.ofNat (run.foldl (fun n b => 16 * n + (Hex.digit? b).getD 0) 0)

/-- The colon between two groups. -/
def separator (first : Bool) : Step Unit := if first then return else one ':'

/-- Two groups written as a version 4 address. -/
def embedded (first : Bool) : Step (List UInt16) := do
  separator first
  let (a, b, c, d) ← octets
  return [a.toUInt16 * 256 + b.toUInt16, c.toUInt16 * 256 + d.toUInt16]

/-- Up to a number of groups, and whether they end in a version 4 address. Such an address needs
room for two groups, and nothing follows it. -/
def groups : Nat → Bool → Step (List UInt16 × Bool)
  | 0, _ => return ([], false)
  | room + 1, first => do
    let input ← get
    match if 0 < room then embedded first input else none with
    | some (pair, rest) =>
      set rest
      return (pair, true)
    | none =>
      match (separator first *> group) input with
      | some (g, rest) =>
        set rest
        let (more, ended) ← groups room false
        return (g :: more, ended)
      | none => return ([], false)

/-- The eight groups of an address. A double colon stands for one or more groups of zero. -/
def address : Step (List UInt16) := do
  let (head, ended) ← groups 8 true
  if head.length = 8 then return head
  if ended then failure
  one ':'
  one ':'
  let (tail, _) ← groups (7 - head.length) true
  return head ++ List.replicate (8 - head.length - tail.length) 0 ++ tail

/-- A scope after a percent sign, if there is one. -/
def scope : Step UInt32 := do
  match (one '%' *> number UInt32.size) (← get) with
  | some (n, rest) =>
    set rest
    return UInt32.ofNat n
  | none => return 0

def readV4 : Step SocketAddress := do
  let (a, b, c, d) ← octets
  return .v4 a b c d (← port)

def readV6 : Step SocketAddress := do
  one '['
  let groups ← address
  let scope ← scope
  one ']'
  return .v6 groups scope (← port)

/-- The address that a text spells as a whole. -/
def parse? (s : String) : Option SocketAddress :=
  let whole (step : Step SocketAddress) : Option SocketAddress :=
    match step (bytes s) with
    | some (a, []) => some a
    | _ => none
  whole readV4 <|> whole readV6

/-- How long the run of zeros at the front is. -/
def zeroRun (groups : List UInt16) : Nat := (groups.takeWhile (· = 0)).length

/-- Where the first of the longest runs of zeros begins, and its length. -/
def longestZeroRun (groups : List UInt16) : Nat × Nat :=
  (List.range groups.length).foldl (fun best start =>
    let length := zeroRun (groups.drop start)
    if best.2 < length then (start, length) else best) (0, 0)

def groupsText (groups : List UInt16) : String :=
  ":".intercalate (groups.map fun g => Hex.number g.toNat)

def v4Text (a b c d : Nat) : String := ".".intercalate ([a, b, c, d].map toString)

/-- A version 6 address with the longest run of two or more zero groups left out. An address that
stands for one of version 4 shows it. -/
def v6Text (groups : List UInt16) : String :=
  match groups with
  | [0, 0, 0, 0, 0, 0xFFFF, high, low] =>
    "::ffff:" ++ v4Text (high.toNat / 256) (high.toNat % 256) (low.toNat / 256) (low.toNat % 256)
  | _ =>
    let (start, length) := longestZeroRun groups
    if 1 < length then
      groupsText (groups.take start) ++ "::" ++ groupsText (groups.drop (start + length))
    else groupsText groups

def text : SocketAddress → String
  | v4 a b c d port => v4Text a.toNat b.toNat c.toNat d.toNat ++ ":" ++ toString port.toNat
  | v6 groups scope port =>
    let zone := if scope = 0 then "" else "%" ++ toString scope.toNat
    "[" ++ v6Text groups ++ zone ++ "]:" ++ toString port.toNat

end SocketAddress

end ZoneGate.Net
