/-! Finite double-precision numbers as exact integers, with rounding to the nearest. -/

namespace ScanWatch

/-- A finite double: `significand * 2 ^ exponent`, negated when `negative` holds. -/
structure Binary64 where
  negative : Bool
  significand : Nat
  exponent : Int
  /-- The significand has at most 53 bits. -/
  fits : significand < 9007199254740992 ∧ -1074 ≤ exponent ∧ exponent ≤ 971
  /-- It has exactly 53 bits, unless the number is subnormal. -/
  normal : 4503599627370496 ≤ significand ∨ exponent = -1074
deriving DecidableEq, Repr

namespace Binary64

def zero : Binary64 :=
  ⟨false, 0, -1074, by decide, by decide⟩

instance : Inhabited Binary64 := ⟨zero⟩

def isZero (number : Binary64) : Bool :=
  number.significand == 0

def negate (number : Binary64) : Binary64 :=
  { number with negative := !number.negative }

/-- Numeric equality: the two zeros are equal. -/
def equal (left right : Binary64) : Bool :=
  (left.isZero && right.isZero) || left == right

def ofParts? (negative : Bool) (significand : Nat) (exponent : Int) : Option Binary64 :=
  if fits : significand < 9007199254740992 ∧ -1074 ≤ exponent ∧ exponent ≤ 971 then
    if normal : 4503599627370496 ≤ significand ∨ exponent = -1074 then
      some ⟨negative, significand, exponent, fits, normal⟩
    else none
  else none

/-- The exponent at which a positive quotient has 53 bits before the point, but no smaller
than that of the subnormal numbers. -/
def lastPlace (numerator denominator : Nat) : Int :=
  let top : Int := (numerator.log2 : Int) - denominator.log2
  let reached := decide (denominator * Nat.pow 2 top.toNat ≤ numerator * Nat.pow 2 (-top).toNat)
  max (-1074) (if reached then top - 52 else top - 53)

/-- The quotient rounded to an integer, a half to the even neighbour. -/
def roundQuotient (numerator denominator : Nat) : Nat :=
  let quotient := numerator / denominator
  let twice := 2 * (numerator % denominator)
  if denominator < twice || (denominator == twice && quotient % 2 == 1) then quotient + 1
  else quotient

/-- The double nearest to a quotient; none beyond the largest double. -/
def ofRatio? (negative : Bool) (numerator denominator : Nat) : Option Binary64 :=
  if numerator = 0 then some { zero with negative }
  else
    let exponent := lastPlace numerator denominator
    let significand :=
      roundQuotient (numerator * Nat.pow 2 (-exponent).toNat)
        (denominator * Nat.pow 2 exponent.toNat)
    if significand = 9007199254740992 then ofParts? negative 4503599627370496 (exponent + 1)
    else ofParts? negative significand exponent

def ofNat? (value : Nat) : Option Binary64 :=
  ofRatio? false value 1

/-- The magnitude as a quotient of natural numbers. -/
def magnitude (number : Binary64) : Nat × Nat :=
  (number.significand * Nat.pow 2 number.exponent.toNat, Nat.pow 2 (-number.exponent).toNat)

/-- The rounded product; none on overflow. -/
def mul? (left right : Binary64) : Option Binary64 :=
  let (numerator, denominator) := left.magnitude
  let (factor, divisor) := right.magnitude
  ofRatio? (left.negative != right.negative) (numerator * factor) (denominator * divisor)

/-- The rounded quotient; none on overflow or for a zero divisor. -/
def div? (left right : Binary64) : Option Binary64 :=
  let (numerator, denominator) := left.magnitude
  let (factor, divisor) := right.magnitude
  if factor = 0 then none
  else ofRatio? (left.negative != right.negative) (numerator * divisor) (denominator * factor)

end Binary64

end ScanWatch
