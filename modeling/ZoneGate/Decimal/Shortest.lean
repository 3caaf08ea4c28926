/-!
# The shortest decimal of a float

A finite float stands for an interval of reals: those that round to it. Its shortest decimal is the
one with the fewest digits inside that interval, and of two with equally many digits the nearer.
All arithmetic is exact, on natural numbers.
-/
namespace ZoneGate.Decimal

/-- A positive binary number `mantissa * 2 ^ exponent`. -/
structure Binary where
  mantissa : Nat
  exponent : Int

/-- The leading bit of a mantissa, which a float does not store: `2 ^ 52`. -/
def Binary.hidden : Nat := 4503599627370496

/-- What the sign weighs in the bits of a float: `2 ^ 63`. -/
def signWeight : Nat := 9223372036854775808

/-- A positive decimal number `digits * 10 ^ exponent`. -/
structure Scientific where
  digits : Nat
  exponent : Int
  deriving DecidableEq, Repr

/-- How many decimal digits a number has; zero has one. -/
def digitCount (n : Nat) : Nat := (Nat.toDigits 10 n).length

/-- A fraction of natural numbers. -/
structure Fraction where
  num : Nat
  den : Nat

/-- `n * 2 ^ e` as a fraction. -/
def Fraction.ofBinary (n : Nat) (e : Int) : Fraction :=
  ⟨n * Nat.pow 2 e.toNat, Nat.pow 2 (-e).toNat⟩

/-- The power of ten with `10 ^ k ≤ x < 10 ^ (k + 1)`. -/
def Fraction.magnitude (x : Fraction) : Int :=
  if x.den ≤ x.num then digitCount (x.num / x.den) - 1
  else -(digitCount ((x.den + x.num - 1) / x.num - 1) : Int)

/-- The interval of reals that round to a float, in quarters of its unit: `low`, `high`, the value
itself, and whether the two ends belong to it. -/
structure Interval where
  low : Nat
  value : Nat
  high : Nat
  closed : Bool
  exponent : Int

/-- The half gaps to the two neighbours. Below a power of two the gap is half as wide, except at
the smallest exponent. -/
def Binary.interval (x : Binary) : Interval :=
  let narrow := x.mantissa = Binary.hidden ∧ x.exponent ≠ -1074
  ⟨4 * x.mantissa - (if narrow then 1 else 2), 4 * x.mantissa, 4 * x.mantissa + 2,
    x.mantissa % 2 = 0, x.exponent - 2⟩

/-- The nearest decimal with the last digit at `10 ^ e` that lies in the interval, if there is one.
Between two equally near the even digit is taken. -/
def Interval.nearest? (i : Interval) (e : Int) : Option Scientific :=
  let scale (n : Nat) : Nat := n * Nat.pow 2 i.exponent.toNat * Nat.pow 10 (-e).toNat
  let unit : Nat := Nat.pow 10 e.toNat * Nat.pow 2 (-i.exponent).toNat
  let value := scale i.value
  let inside (d : Nat) : Bool :=
    if i.closed then scale i.low ≤ d * unit && d * unit ≤ scale i.high
    else scale i.low < d * unit && d * unit < scale i.high
  let below := value / unit
  let above := below + 1
  let gapBelow := value - below * unit
  let gapAbove := above * unit - value
  if inside below && inside above then
    if gapBelow < gapAbove || (gapBelow = gapAbove && below % 2 = 0) then some ⟨below, e⟩
    else some ⟨above, e⟩
  else if inside below then some ⟨below, e⟩
  else if inside above then some ⟨above, e⟩
  else none

/-- Removes trailing zeros from the digits; the first argument bounds their number. -/
def Scientific.strip : Nat → Scientific → Scientific
  | 0, x => x
  | fuel + 1, x =>
    if x.digits % 10 = 0 && x.digits ≠ 0 then strip fuel ⟨x.digits / 10, x.exponent + 1⟩ else x

/-- The shortest decimal of a positive float: grids of one digit, two digits and so on are tried,
and seventeen digits always suffice. -/
def Binary.shortest (x : Binary) : Scientific :=
  let i := x.interval
  let top := (Fraction.ofBinary x.mantissa x.exponent).magnitude
  let tries := (List.range 17).filterMap fun (n : Nat) => i.nearest? (top - n)
  (tries.headD ⟨x.mantissa, 0⟩).strip 20

/-- The parts of a finite float other than its sign. -/
def Binary.ofFloat (x : Float) : Binary :=
  let word := x.toBits.toNat % signWeight
  let exponent : Nat := word / Binary.hidden
  let fraction := word % Binary.hidden
  if exponent = 0 then ⟨fraction, -1074⟩ else ⟨Binary.hidden + fraction, (exponent : Int) - 1075⟩

def isNegative (x : Float) : Bool := signWeight ≤ x.toBits.toNat

/-- Digits with the point after the first `before` of them, padded with zeros on either side. A
number without a fraction keeps one zero after the point. -/
def positional (digits : List Char) (before : Int) : List Char :=
  if before ≤ 0 then '0' :: '.' :: (List.replicate (-before).toNat '0' ++ digits)
  else if before.toNat < digits.length then
    digits.take before.toNat ++ '.' :: digits.drop before.toNat
  else digits ++ List.replicate (before.toNat - digits.length) '0' ++ ['.', '0']

/-- One digit before the point and a signed power of ten. -/
def exponential (digits : List Char) (power : Int) : List Char :=
  let sign := if power < 0 then '-' else '+'
  let fraction := if digits.length ≤ 1 then [] else '.' :: digits.drop 1
  digits.take 1 ++ fraction ++ 'e' :: sign :: Nat.toDigits 10 power.natAbs

/-- A finite float as text. The point is written in place for numbers from `0.00001` to below
`10 ^ 16`, and all others are written with a power of ten. -/
def text (x : Float) : String :=
  let b := Binary.ofFloat x
  let sign := if isNegative x then ['-'] else []
  if b.mantissa = 0 then String.ofList (sign ++ ['0', '.', '0'])
  else
    let s := b.shortest
    let digits := Nat.toDigits 10 s.digits
    let before : Int := digits.length + s.exponent
    if -5 < before && before ≤ 16 then String.ofList (sign ++ positional digits before)
    else String.ofList (sign ++ exponential digits (before - 1))

end ZoneGate.Decimal
