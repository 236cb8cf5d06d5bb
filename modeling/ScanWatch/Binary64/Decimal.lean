import ScanWatch.Binary64.Basic

/-! Decimal text and doubles: reading a scaled significand, and writing the fewest digits that
still name the number. -/

namespace ScanWatch.Binary64

/-- The largest power of ten that is a double. -/
def largestPower : Nat := 308

def powerOfTen? (places : Nat) : Option Binary64 :=
  ofNat? (Nat.pow 10 places)

/-- Divides by `10 ^ 308` a number of times, stopping at zero, and then by `10 ^ places`. -/
def scaleDown? (number : Binary64) (places : Nat) : (rounds : Nat) → Option Binary64
  | 0 => (powerOfTen? places).bind number.div?
  | rounds + 1 =>
    if number.isZero then some number
    else ((powerOfTen? largestPower).bind number.div?).bind (scaleDown? · places rounds)

/-- Reads `significand * 10 ^ exponent` in two roundings: the significand first, then its
product or quotient with the rounded power of ten. None when the result is too large. -/
def ofScientific? (negative : Bool) (significand : Nat) (exponent : Int) : Option Binary64 := do
  let whole ← ofNat? significand
  let scaled ←
    if exponent < 0 then
      let rounds := (exponent.natAbs - 1) / largestPower
      scaleDown? whole (exponent.natAbs - rounds * largestPower) rounds
    else if whole.isZero then some whole
    else if exponent.natAbs ≤ largestPower then (powerOfTen? exponent.natAbs).bind whole.mul?
    else none
  return if negative then scaled.negate else scaled

/-- The place of a positive number's first digit: it lies between `10 ^ (place - 1)` and
`10 ^ place`, the upper end excluded. -/
def decimalPlace (numerator denominator : Nat) : Int :=
  if denominator ≤ numerator then (Nat.toDigits 10 (numerator / denominator)).length
  else
    let count := (Nat.toDigits 10 (denominator / numerator)).length
    let reached := decide (denominator ≤ numerator * Nat.pow 10 (count - 1))
    if reached then 2 - (count : Int) else 1 - (count : Int)

/-- The open or closed interval of numbers that round to a given double, over one denominator. -/
structure Neighbourhood where
  low : Nat
  value : Nat
  high : Nat
  denominator : Nat
  closed : Bool

/-- Half a step to either side; below a power of two the step is half as wide. -/
def neighbourhood (number : Binary64) : Neighbourhood :=
  let scale := Nat.pow 2 number.exponent.toNat
  let below := if number.significand = 4503599627370496 ∧ number.exponent ≠ -1074 then 1 else 2
  { low := (4 * number.significand - below) * scale
    value := 4 * number.significand * scale
    high := (4 * number.significand + 2) * scale
    denominator := 4 * Nat.pow 2 (-number.exponent).toNat
    closed := number.significand % 2 == 0 }

/-- Whether `digits * 10 ^ power` lies in the interval. -/
def Neighbourhood.holds (around : Neighbourhood) (digits : Nat) (power : Int) : Bool :=
  let point := digits * Nat.pow 10 power.toNat * around.denominator
  let low := around.low * Nat.pow 10 (-power).toNat
  let high := around.high * Nat.pow 10 (-power).toNat
  if around.closed then decide (low ≤ point ∧ point ≤ high)
  else decide (low < point ∧ point < high)

/-- The nearer of the value's two neighbours among the multiples of `10 ^ power` that lie in the
interval; the even one of two equally near. -/
def Neighbourhood.nearest? (around : Neighbourhood) (power : Int) : Option Nat :=
  let numerator := around.value * Nat.pow 10 (-power).toNat
  let denominator := around.denominator * Nat.pow 10 power.toNat
  let under := numerator / denominator
  let preferred := roundQuotient numerator denominator
  let other := if preferred = under then under + 1 else under
  if around.holds preferred power then some preferred
  else if around.holds other power then some other
  else none

/-- The shortest decimal, with `count` to 17 digits, that reads back as the number. -/
def shortestFrom (around : Neighbourhood) (place : Int) : (attempts count : Nat) → Nat × Int
  | 0, count => (around.value / around.denominator, place - count)
  | attempts + 1, count =>
    let power := place - count
    match around.nearest? power with
    | some digits => (digits, power)
    | none => shortestFrom around place attempts (count + 1)

def shortest (number : Binary64) : List Char × Int :=
  let around := number.neighbourhood
  let place := decimalPlace around.value around.denominator
  let (digits, power) := shortestFrom around place 17 1
  let text := Nat.toDigits 10 digits
  let kept := (text.reverse.dropWhile (· == '0')).reverse
  (kept, power + text.length)

/-- Lays out digits whose first stands just before place `place`: positional for a decimal
exponent from -5 to 15, always with a fraction, and scientific with a signed exponent beyond. -/
def layout (digits : List Char) (place : Int) : List Char :=
  if place ≤ -5 ∨ 16 < place then
    let exponent := place - 1
    let sign := if exponent < 0 then '-' else '+'
    let mantissa :=
      match digits with
      | [] => []
      | [first] => [first]
      | first :: rest => first :: '.' :: rest
    mantissa ++ 'e' :: sign :: Nat.toDigits 10 exponent.natAbs
  else if place ≤ 0 then
    '0' :: '.' :: (List.replicate place.natAbs '0' ++ digits)
  else if place.toNat < digits.length then
    digits.take place.toNat ++ '.' :: digits.drop place.toNat
  else
    digits ++ List.replicate (place.toNat - digits.length) '0' ++ ['.', '0']

/-- The shortest decimal text that reads back as the number. -/
def toChars (number : Binary64) : List Char :=
  let unsigned :=
    if number.isZero then ['0', '.', '0']
    else layout number.shortest.1 number.shortest.2
  if number.negative then '-' :: unsigned else unsigned

end ScanWatch.Binary64
