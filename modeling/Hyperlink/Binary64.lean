import Hyperlink.Text

/-!
Binary fractions in the 64-bit interchange format, and their decimal text.

Writing looks for the fewest digits that read back: for one digit, two digits and so on it tests the
two neighbours of the value on that decimal grid, in exact arithmetic, against the interval of reals
that round to the value. Numbers of a moderate size are written out, very large and very small ones
with a power of ten. Reading takes as many digits as fit in 64 bits and scales once.
-/

namespace Hyperlink

/-- A finite binary fraction, by its bits: sign, eleven of exponent, fifty-two of mantissa. -/
structure Binary64 where
  bits : UInt64
  deriving DecidableEq

namespace Binary64

/-- The sign bit. -/
def isNegative (x : Binary64) : Bool := x.bits >>> 63 == 1

/-- The biased exponent. -/
def exponent (x : Binary64) : Nat := ((x.bits >>> 52) &&& 0x7FF).toNat

/-- The stored part of the mantissa. -/
def fraction (x : Binary64) : Nat := (x.bits &&& 0xFFFFFFFFFFFFF).toNat

/-- The whole mantissa: normal numbers have a leading one that is not stored. -/
def mantissa (x : Binary64) : Nat :=
  if x.exponent = 0 then x.fraction else x.fraction + 0x10000000000000

/-- The power of two that the mantissa counts, plus 1074. -/
def scale (x : Binary64) : Nat := x.exponent - 1

/-! ### Writing -/

/-- A decimal `digits * 10 ^ power`. -/
structure Decimal where
  digits : Nat
  power : Int

/-- The reals that round to a positive value, and the value, over a common denominator. -/
structure Interval where
  low : Nat
  value : Nat
  high : Nat
  denominator : Nat
  /-- The ends round to the value too. -/
  closed : Bool

/-- The interval of a positive number. Its lower half is shorter at a power of two. -/
def interval (x : Binary64) : Interval :=
  let numerator := 4 * x.mantissa
  let below := if x.fraction = 0 ∧ 1 < x.exponent then 1 else 2
  -- quarters of a unit: the value is numerator * 2 ^ (scale - 1076)
  let up := Nat.pow 2 (x.scale - 1076)
  ⟨(numerator - below) * up, numerator * up, (numerator + 2) * up, Nat.pow 2 (1076 - x.scale),
    x.mantissa % 2 == 0⟩

/-- The power of ten just above a positive fraction. -/
def magnitude (numerator denominator : Nat) : Int :=
  if denominator ≤ numerator then (Nat.toDigits 10 (numerator / denominator)).length
  else 1 - ((Nat.toDigits 10 ((denominator - 1) / numerator)).length : Int)

/-- The point of the grid with steps of `10 ^ power` that lies in the interval and is nearest to the
value; of two equally near, the even one. -/
def gridPoint? (i : Interval) (power : Int) : Option Decimal :=
  let up := Nat.pow 10 (-power).toNat
  let step := i.denominator * Nat.pow 10 power.toNat
  let inside := fun n =>
    if i.closed then i.low * up ≤ n * step ∧ n * step ≤ i.high * up
    else i.low * up < n * step ∧ n * step < i.high * up
  let n := i.value * up / step
  let lowerGap := i.value * up - n * step
  let upperGap := (n + 1) * step - i.value * up
  let lowerFirst := lowerGap < upperGap ∨ lowerGap = upperGap ∧ n % 2 = 0
  if inside n ∧ (lowerFirst ∨ ¬ inside (n + 1)) then some ⟨n, power⟩
  else if inside (n + 1) then some ⟨n + 1, power⟩
  else none

/-- The decimal with the fewest digits that reads back as a positive number. -/
def shortest (x : Binary64) : Decimal :=
  let i := x.interval
  let top := magnitude i.value i.denominator
  ((List.range 17).findSome? fun n : Nat => gridPoint? i (top - (n + 1))).getD ⟨0, 0⟩

/-- The digits without the zeros at the end. -/
def Decimal.significant (d : Decimal) : Text :=
  ((Nat.toDigits 10 d.digits).reverse.dropWhile (· == '0')).reverse

/-- The power of ten that the first digit counts. -/
def Decimal.exponent (d : Decimal) : Int := d.power + (Nat.toDigits 10 d.digits).length - 1

/-- Digits in place, the first of them counting `10 ^ exponent`; always with a point. -/
def printPlain (digits : Text) (exponent : Int) : Text :=
  let whole := (exponent + 1).toNat
  let digits := List.replicate (-exponent).toNat '0' ++ digits
  let digits := digits ++ List.replicate (whole - digits.length) '0'
  let (whole, places) := digits.splitAt (max 1 whole)
  whole ++ '.' :: if places.isEmpty then ['0'] else places

/-- Digits with one before the point, and the power of ten by its number, always with a sign; no
point after a single digit. -/
def printScientific (digits : Text) (exponent : Int) : Text :=
  let (whole, places) := digits.splitAt 1
  whole ++ (if places.isEmpty then [] else '.' :: places) ++
    'e' :: (if exponent < 0 then '-' else '+') :: Nat.toDigits 10 exponent.natAbs

/-- A decimal is written out from a hundred-thousandth up to sixteen digits before the point. -/
def Decimal.print (d : Decimal) : Text :=
  if -5 ≤ d.exponent ∧ d.exponent ≤ 15 then printPlain d.significant d.exponent
  else printScientific d.significant d.exponent

/-- The text of a number: the fewest digits that read back. -/
def print (x : Binary64) : Text :=
  (if x.isNegative then ['-'] else []) ++
    if x.mantissa = 0 then "0.0".toList else x.shortest.print

/-! ### Reading -/

/-- Takes digits into a significand while it fits in 64 bits. Answers with the significand, and how
many digits were taken and left. -/
def fill (significand : Nat) : Text → Nat × Nat × Nat
  | [] => (significand, 0, 0)
  | digit :: digits =>
    let next := 10 * significand + (digit.toNat - '0'.toNat)
    if next < 0x10000000000000000 then
      let (filled, taken, left) := fill next digits
      (filled, taken + 1, left)
    else (significand, 0, digits.length + 1)

/-- A power of ten up to `10 ^ 308`, rounded to a number. -/
def powerOfTen (n : Nat) : Float := Float.ofScientific 1 false n

/-- A significand times a power of ten, if it is finite. -/
def scaled? (significand : Nat) (power : Int) : Option Float :=
  let x := Float.ofNat significand
  if 0 ≤ power then
    if power ≤ 308 then
      let y := x * powerOfTen power.toNat
      if y.isInf then none else some y
    else if significand = 0 then some x
    else none
  else
    let n := (-power).toNat
    if n ≤ 308 then some (x / powerOfTen n)
    else if n ≤ 616 then some (x / powerOfTen 308 / powerOfTen (n - 308))
    else some 0

/-- The number that decimal text stands for: whole digits, digits after the point, exponent. -/
def ofDecimal? (negative : Bool) (whole places : Text) (exponent : Int) : Option Binary64 :=
  let (significand, _, left) := fill 0 whole
  let (significand, taken, _) := fill significand places
  (scaled? significand (exponent + left - taken)).map fun x =>
    ⟨(if negative then -x else x).toBits⟩

end Binary64

end Hyperlink
