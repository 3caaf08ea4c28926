import ZoneGate.Text.Ascii

/-!
# Bytes in hexadecimal digits

Two digits a byte, the high half first. Both cases are read and the lower case is written. Behind a
percent sign they stand for a byte of text; an escape that is incomplete or ill-formed stands for
itself.
-/
namespace ZoneGate.Text.Hex

/-- The digit of a half byte in lower case. -/
def digit (n : Nat) : Char :=
  if n < 10 then Char.ofNat (48 + n) else Char.ofNat (87 + n)

/-- The value of a digit of either case. -/
def digit? (b : UInt8) : Option Nat :=
  if isDigit b then some (digitValue b)
  else if byte 'a' ≤ b && b ≤ byte 'f' then some (b.toNat - 87)
  else if byte 'A' ≤ b && b ≤ byte 'F' then some (b.toNat - 55)
  else none

/-- The two digits of a byte. -/
def pair (b : UInt8) : List Char := [digit (b.toNat / 16), digit (b.toNat % 16)]

def encode (bs : List UInt8) : String := String.ofList (bs.flatMap pair)

/-- A number in hexadecimal without leading zeros, in lower case. -/
def number (n : Nat) : String := String.ofList (Nat.toDigits 16 n)

/-- Why a text is no hexadecimal form of a given number of bytes. -/
inductive Error where
  | oddLength
  | wrongLength
  | badDigit (found : UInt8) (position : Nat)
  deriving DecidableEq, Repr

/-- Reads pairs of digits; `position` is that of the first byte. -/
def decodeFrom (position : Nat) : List UInt8 → Except Error (List UInt8)
  | [] => .ok []
  | [_] => .error .oddLength
  | high :: low :: rest =>
    match digit? high, digit? low with
    | none, _ => .error (.badDigit high position)
    | some _, none => .error (.badDigit low (position + 1))
    | some h, some l => (decodeFrom (position + 2) rest).map (UInt8.ofNat (16 * h + l) :: ·)

/-- Reads exactly `count` bytes. The parity of the length is looked at first, then the length,
then the digits from the left. -/
def decode (count : Nat) (text : List UInt8) : Except Error (List UInt8) :=
  if text.length % 2 ≠ 0 then .error .oddLength
  else if text.length ≠ 2 * count then .error .wrongLength
  else decodeFrom 0 text

end ZoneGate.Text.Hex

namespace ZoneGate.Text.Percent

/-- The bytes that a percent-encoded run stands for. -/
def decode : List UInt8 → List UInt8
  | [] => []
  | b :: high :: low :: rest =>
    if b = byte '%' then
      match Hex.digit? high, Hex.digit? low with
      | some h, some l => UInt8.ofNat (16 * h + l) :: decode rest
      | _, _ => b :: decode (high :: low :: rest)
    else b :: decode (high :: low :: rest)
  | b :: rest => b :: decode rest

/-- One byte as an escape, with capital digits. -/
def escape (b : UInt8) : List UInt8 :=
  byte '%' :: (Hex.pair b).map fun c => byte c.toUpper

end ZoneGate.Text.Percent
