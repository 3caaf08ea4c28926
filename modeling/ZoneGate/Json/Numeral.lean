import ZoneGate.Json.Error
import ZoneGate.Text.Ascii

/-!
# JSON numerals

A numeral is first split into its runs of digits, then given a value. The value is a whole number
of 64 bits where that is what was written; otherwise a float computed from the leading digits that
fit 64 bits and one multiplication or division by a power of ten.
-/
namespace ZoneGate.Json

open Text

/-- The parts of a numeral as written. -/
structure Numeral where
  negative : Bool
  whole : List UInt8
  fraction : Option (List UInt8)
  /-- Whether the exponent is negative, and its digits. -/
  exponent : Option (Bool × List UInt8)

namespace Numeral

/-- A non-empty run of digits, with `atEnd` as the error where the text is over. -/
def digits (atEnd : Error) (input : List UInt8) : Except Error (List UInt8 × List UInt8) :=
  match input with
  | [] => .error atEnd
  | b :: _ =>
    if isDigit b then .ok (input.takeWhile isDigit, input.dropWhile isDigit)
    else .error .invalidNumber

/-- The whole part: a zero that no digit follows, or a run without a leading zero. -/
def wholePart (atEnd : Error) (input : List UInt8) :
    Except Error (List UInt8 × List UInt8) := do
  let (run, rest) ← digits atEnd input
  if run.head? = some (byte '0') && run.length ≠ 1 then throw .invalidNumber
  return (run, rest)

/-- A point and the digits after it, if there is a point. -/
def fractionPart (atEnd : Error) (input : List UInt8) :
    Except Error (Option (List UInt8) × List UInt8) :=
  match input with
  | b :: rest =>
    if b = byte '.' then (digits atEnd rest).map fun (run, rest) => (some run, rest)
    else .ok (none, input)
  | [] => .ok (none, [])

/-- A sign, if there is one. -/
def signPart (input : List UInt8) : Bool × List UInt8 :=
  match input with
  | b :: rest =>
    if b = byte '-' then (true, rest) else if b = byte '+' then (false, rest) else (false, input)
  | [] => (false, [])

/-- `e` with its sign and digits, if there is one. -/
def exponentPart (atEnd : Error) (input : List UInt8) :
    Except Error (Option (Bool × List UInt8) × List UInt8) :=
  match input with
  | b :: rest =>
    if b = byte 'e' || b = byte 'E' then
      let (minus, rest) := signPart rest
      (digits atEnd rest).map fun (run, rest) => (some (minus, run), rest)
    else .ok (none, input)
  | [] => .ok (none, [])

/-- Reads a numeral from the front of the text. -/
def scan (atEnd : Error) (input : List UInt8) : Except Error (Numeral × List UInt8) := do
  let minus := input.head? = some (byte '-')
  let (whole, rest) ← wholePart atEnd (if minus then input.drop 1 else input)
  let (fraction, rest) ← fractionPart atEnd rest
  let (exponent, rest) ← exponentPart atEnd rest
  return (⟨minus, whole, fraction, exponent⟩, rest)

/-- A significand below `2 ^ 64` and a power of ten. -/
structure Scaled where
  significand : Nat
  power : Int

/-- Takes in the digits of the whole part. From the first one that does not fit on, each digit only
raises the power. -/
def Scaled.ofWhole (run : List UInt8) : Scaled :=
  run.foldl (fun s b =>
    if s.power = 0 && 10 * s.significand + digitValue b < UInt64.size then
      ⟨10 * s.significand + digitValue b, 0⟩
    else ⟨s.significand, s.power + 1⟩) ⟨0, 0⟩

/-- Takes in digits of the fraction up to the first one that does not fit. -/
def Scaled.addFraction : List UInt8 → Scaled → Scaled
  | [], s => s
  | b :: rest, s =>
    if 10 * s.significand + digitValue b < UInt64.size then
      addFraction rest ⟨10 * s.significand + digitValue b, s.power - 1⟩
    else s

/-- The power of ten as a float, for powers up to 308. -/
def powerOfTen (n : Nat) : Float := Float.ofScientific 1 false n

/-- Scales a float by a power of ten, in steps of 308 downwards; upwards only one step can stay
finite. -/
def scale : Nat → Float → Int → Except Error Float
  | 0, x, _ => .ok x
  | steps + 1, x, power =>
    if power.natAbs ≤ 308 then
      if 0 ≤ power then
        let y := x * powerOfTen power.natAbs
        if y.isInf then .error .numberOutOfRange else .ok y
      else .ok (x / powerOfTen power.natAbs)
    else if x == 0 then .ok x
    else if 0 ≤ power then .error .numberOutOfRange
    else scale steps (x / powerOfTen 308) (power + 308)

/-- The exponents from here on make a number too large, or zero. -/
def maxExponent : Nat := 2147483648

/-- The value of a numeral that is no whole number of 64 bits. -/
def float (numeral : Numeral) (s : Scaled) : Except Error Float := do
  let sign (x : Float) : Float := if numeral.negative then -x else x
  match numeral.exponent with
  | none => return sign (← scale 8 s.significand.toUInt64.toFloat s.power)
  | some (minus, run) =>
    let exponent := decimal run
    if exponent < maxExponent then
      let power := if minus then s.power - exponent else s.power + exponent
      return sign (← scale 8 s.significand.toUInt64.toFloat power)
    else if s.significand ≠ 0 && !minus then throw .numberOutOfRange
    else return sign 0

/-- The greatest whole number that has a negative of 64 bits. -/
def maxNegative : Nat := 9223372036854775808

/-- The number that a numeral stands for. Minus zero is a float. -/
def value (numeral : Numeral) : Except Error Number :=
  let s := Scaled.ofWhole numeral.whole
  match numeral.fraction, numeral.exponent with
  | none, none =>
    if s.power ≠ 0 then (numeral.float s).map .float
    else if !numeral.negative then .ok (.unsigned (UInt64.ofNat s.significand))
    else if 0 < s.significand && s.significand ≤ maxNegative then .ok (.negative (-s.significand))
    else (numeral.float s).map .float
  | fraction, _ => (numeral.float (Scaled.addFraction (fraction.getD []) s)).map .float

end Numeral

end ZoneGate.Json
