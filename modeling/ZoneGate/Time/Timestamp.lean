import ZoneGate.Text.Ascii

/-!
# Timestamps

A timestamp is a local date and time with its offset from UTC in whole minutes, to the nanosecond:
exactly what an RFC 3339 text can hold. Writing uses one form; reading is more lenient and also
takes small letters, any separator between date and time, more digits than nine in the fraction
and a leap second at the end of a month.

A clock counts the nanoseconds since the first moment of 1970 in UTC. Its days are turned into dates
by counting years from the first of March, so that a leap day comes last.
-/
namespace ZoneGate

open Text

namespace Timestamp

/-- The parts of a timestamp, not yet checked against the calendar. -/
structure Parts where
  year : Nat
  month : Nat
  day : Nat
  hour : Nat
  minute : Nat
  second : Nat
  nanosecond : Nat
  /-- Minutes that local time is ahead of UTC. -/
  offset : Int
  deriving DecidableEq, Repr

/-- The nanoseconds in a second. -/
def perSecond : Nat := 1000000000

def isLeapYear (year : Nat) : Bool :=
  year % 4 = 0 && (year % 100 ≠ 0 || year % 400 = 0)

def daysIn (year month : Nat) : Nat :=
  if month = 2 then (if isLeapYear year then 29 else 28)
  else if month = 4 || month = 6 || month = 9 || month = 11 then 30
  else 31

/-- The date exists, and the time and the offset are below one day. -/
structure Parts.Valid (p : Parts) : Prop where
  year : p.year ≤ 9999
  month : 1 ≤ p.month ∧ p.month ≤ 12
  day : 1 ≤ p.day ∧ p.day ≤ daysIn p.year p.month
  hour : p.hour < 24
  minute : p.minute < 60
  second : p.second < 60
  nanosecond : p.nanosecond < perSecond
  offset : p.offset.natAbs < 1440

instance (p : Parts) : Decidable p.Valid :=
  decidable_of_iff
    (p.year ≤ 9999 ∧ (1 ≤ p.month ∧ p.month ≤ 12) ∧ (1 ≤ p.day ∧ p.day ≤ daysIn p.year p.month) ∧
      p.hour < 24 ∧ p.minute < 60 ∧ p.second < 60 ∧ p.nanosecond < perSecond ∧
      p.offset.natAbs < 1440)
    ⟨fun ⟨a, b, c, d, e, f, g, h⟩ => ⟨a, b, c, d, e, f, g, h⟩,
      fun ⟨a, b, c, d, e, f, g, h⟩ => ⟨a, b, c, d, e, f, g, h⟩⟩

/-- Why a text is no timestamp. -/
inductive Fault where
  /-- A part is missing or not of its form. -/
  | component (name : String)
  /-- A dash or colon is missing. -/
  | literal
  | trailing
  /-- A part is of its form but no part of any such date and time. -/
  | range (name : String)
  deriving DecidableEq, Repr

def Fault.message : Fault → String
  | component name => "the '" ++ name ++ "' component could not be parsed"
  | literal => "a character literal was not valid"
  | trailing => "unexpected trailing characters; the end of input was expected"
  | range name => name ++ " was not in range"

/-- A number of exactly `count` digits. -/
def fixed (name : String) (count : Nat) (input : List UInt8) :
    Except Fault (Nat × List UInt8) :=
  let run := input.take count
  if run.length = count && run.all isDigit then .ok (decimal run, input.drop count)
  else .error (.component name)

/-- A character that must follow. -/
def literal (c : Char) : List UInt8 → Except Fault (List UInt8)
  | [] => .error .literal
  | b :: rest => if b = byte c then .ok rest else .error .literal

/-- The nanoseconds that the digits of a fraction stand for; those after the ninth are dropped. -/
def nanoseconds (digits : List UInt8) : Nat :=
  decimal (digits.take 9) * Nat.pow 10 (9 - digits.length)

/-- A point and at least one digit, if there is a point. -/
def fraction (input : List UInt8) : Except Fault (Nat × List UInt8) :=
  match input with
  | b :: rest =>
    if b ≠ byte '.' then .ok (0, input)
    else
      match rest.takeWhile isDigit with
      | [] => .error (.component "subsecond")
      | digits => .ok (nanoseconds digits, rest.dropWhile isDigit)
  | [] => .ok (0, [])

/-- The offset in minutes: `Z`, or a sign with hours and minutes. -/
def offset (input : List UInt8) : Except Fault (Int × List UInt8) :=
  match input with
  | [] => .error (.component "offset hour")
  | b :: rest =>
    if b = byte 'Z' || b = byte 'z' then .ok (0, rest)
    else if b = byte '+' || b = byte '-' then do
      let (hour, rest) ← fixed "offset hour" 2 rest
      if 23 < hour then throw (.component "offset hour")
      let rest ← literal ':' rest
      let (minute, rest) ← fixed "offset minute" 2 rest
      if 59 < minute then throw (.range "offset minute")
      let minutes : Int := 60 * hour + minute
      return (if b = byte '-' then -minutes else minutes, rest)
    else .error (.component "offset hour")

/-- The parts that a text names. Month zero and the offset are refused here, every other part that
is out of range only once the whole text has been read. -/
def scan (input : List UInt8) : Except Fault Parts := do
  let (year, rest) ← fixed "year" 4 input
  let rest ← literal '-' rest
  let (month, rest) ← fixed "month" 2 rest
  if month = 0 then throw (.component "month")
  let rest ← literal '-' rest
  let (day, rest) ← fixed "day" 2 rest
  if rest.isEmpty then throw (.component "separator")
  let (hour, rest) ← fixed "hour" 2 (rest.drop 1)
  let rest ← literal ':' rest
  let (minute, rest) ← fixed "minute" 2 rest
  let rest ← literal ':' rest
  let (second, rest) ← fixed "second" 2 rest
  let (nanosecond, rest) ← fraction rest
  let (offset, rest) ← offset rest
  if !rest.isEmpty then throw .trailing
  return ⟨year, month, day, hour, minute, second, nanosecond, offset⟩

/-- Whether the minute is the last one of a month in UTC. -/
def Parts.endsMonth (p : Parts) : Bool :=
  let minute : Int := p.hour * 60 + p.minute - p.offset
  minute.fmod 1440 = 1439 &&
    (if minute < 0 then p.day = 1
     else if minute < 1440 then p.day = daysIn p.year p.month
     else p.day + 1 = daysIn p.year p.month)

/-- Reads second 60 as the last nanosecond of second 59. -/
def Parts.withoutLeap (p : Parts) : Parts :=
  if p.second = 60 then { p with second := 59, nanosecond := 999999999 } else p

/-- The first part that is out of range. A leap second is in range at the end of a month only. -/
def Parts.outOfRange? (p : Parts) : Option Fault :=
  if 12 < p.month then some (.range "month")
  else if p.day = 0 || daysIn p.year p.month < p.day then some (.range "day")
  else if 23 < p.hour then some (.range "hour")
  else if 59 < p.minute then some (.range "minute")
  else if 60 < p.second || (p.second = 60 && !p.endsMonth) then some (.range "second")
  else none

/-- A number with leading zeros up to a width. -/
def padded : Nat → Nat → List Char
  | 0, _ => []
  | width + 1, n => padded width (n / 10) ++ [Nat.digitChar (n % 10)]

/-- The fraction of a second without trailing zeros, or nothing for a whole second. -/
def fractionText (nanosecond : Nat) : List Char :=
  if nanosecond = 0 then []
  else '.' :: ((padded 9 nanosecond).reverse.dropWhile (· = '0')).reverse

def offsetText (offset : Int) : List Char :=
  if offset = 0 then ['Z']
  else
    (if offset < 0 then '-' else '+') ::
      (padded 2 (offset.natAbs / 60) ++ ':' :: padded 2 (offset.natAbs % 60))

/-- The written form of the parts. -/
def Parts.chars (p : Parts) : List Char :=
  padded 4 p.year ++ '-' :: padded 2 p.month ++ '-' :: padded 2 p.day ++ 'T' :: padded 2 p.hour ++
    ':' :: padded 2 p.minute ++ ':' :: padded 2 p.second ++ fractionText p.nanosecond ++
    offsetText p.offset

end Timestamp

structure Timestamp where
  parts : Timestamp.Parts
  valid : parts.Valid
  deriving DecidableEq

namespace Timestamp

/-- Reads a timestamp. -/
def parse (input : List UInt8) : Except Fault Timestamp := do
  let parts ← scan input
  match parts.outOfRange? with
  | some fault => throw fault
  | none =>
    if h : parts.withoutLeap.Valid then return ⟨parts.withoutLeap, h⟩
    else throw (.component "offset hour")

def text (t : Timestamp) : String := String.ofList t.parts.chars

/-- The first moment of 1970 in UTC. -/
def epoch : Timestamp := ⟨⟨1970, 1, 1, 0, 0, 0, 0, 0⟩, by decide⟩

instance : Inhabited Timestamp := ⟨epoch⟩

/-! ## Clock readings -/

/-- A year that begins in March, and the days that have passed in it. -/
structure MarchDay where
  year : Nat
  day : Nat

/-- The days before the first of March of a year in its cycle of four hundred years. -/
def daysBefore (year : Nat) : Nat := 365 * year + year / 4 - year / 100

/-- The day that comes a number of days after the first of March in the year 0. -/
def MarchDay.ofDays (days : Nat) : MarchDay :=
  let cycle := days / 146097
  let day := days % 146097
  let year := (day - day / 1460 + day / 36524 - day / 146096) / 365
  ⟨400 * cycle + year, day - daysBefore year⟩

/-- The days from the first of March in the year 0 to the first day of 1970. -/
def daysToUnix : Nat := 719468

/-- What a clock reading is in UTC. -/
def Parts.ofUnix (nanoseconds : Nat) : Parts :=
  let seconds := nanoseconds / perSecond
  let date := MarchDay.ofDays (seconds / 86400 + daysToUnix)
  let month := (5 * date.day + 2) / 153
  let year := if month < 10 then date.year else date.year + 1
  ⟨year, if month < 10 then month + 3 else month - 9, date.day - (153 * month + 2) / 5 + 1,
    seconds / 3600 % 24, seconds / 60 % 60, seconds % 60, nanoseconds % perSecond, 0⟩

/-- The timestamp of a clock reading. A clock past the last year that can be written shows the first
moment. -/
def ofUnix (nanoseconds : Nat) : Timestamp :=
  if h : (Parts.ofUnix nanoseconds).Valid then ⟨.ofUnix nanoseconds, h⟩ else epoch

end Timestamp

end ZoneGate
