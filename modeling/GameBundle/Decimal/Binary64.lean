/-!
# Binary floating point with 53 bits

A value is a sign, a mantissa below 2^53 and a power of two not below 2^-1074.
All arithmetic is exact on ratios of natural numbers, followed by one rounding
to the nearest value, ties to the even mantissa. A magnitude beyond the largest
value has no representative here.
-/

namespace GameBundle

structure Binary64 where
  negative : Bool
  mantissa : Nat
  exponent : Int
deriving DecidableEq, Repr

namespace Binary64

def zero (negative : Bool) : Binary64 := ⟨negative, 0, -1074⟩

/-- The quotient rounded to the nearest integer, a half to the even neighbour. -/
def roundQuotient (numerator denominator : Nat) : Nat :=
  let whole := numerator / denominator
  let twice := 2 * (numerator % denominator)
  if twice < denominator then whole
  else if denominator < twice then whole + 1
  else whole + whole % 2

/-- Numerator and denominator after multiplication by `2 ^ power`. -/
def shift (numerator denominator : Nat) : Int → Nat × Nat
  | .ofNat n => (numerator * Nat.pow 2 n, denominator)
  | .negSucc n => (numerator, denominator * Nat.pow 2 (n + 1))

def binaryOrder (numerator denominator : Nat) : Int :=
  let guess : Int := (numerator.log2 : Int) - denominator.log2
  let scaled := shift numerator denominator (-guess)
  if scaled.2 ≤ scaled.1 then guess else guess - 1

/-- The value nearest to a ratio, or nothing when it lies beyond the largest value. -/
def ofRatio? (negative : Bool) (numerator denominator : Nat) : Option Binary64 :=
  if numerator = 0 then some (zero negative)
  else
    let exponent := max (binaryOrder numerator denominator - 52) (-1074)
    let scaled := shift numerator denominator (-exponent)
    let mantissa := roundQuotient scaled.1 scaled.2
    let carried : Nat × Int :=
      if mantissa = Nat.pow 2 53 then (Nat.pow 2 52, exponent + 1) else (mantissa, exponent)
    if 971 < carried.2 then none else some ⟨negative, carried.1, carried.2⟩

/-- Product of the magnitude with a natural ratio, rounded once. -/
def timesRatio? (x : Binary64) (numerator denominator : Nat) (power : Int) : Option Binary64 :=
  let scaled := shift (x.mantissa * numerator) denominator (x.exponent + power)
  ofRatio? x.negative scaled.1 scaled.2

def times? (x y : Binary64) : Option Binary64 :=
  x.timesRatio? y.mantissa 1 y.exponent

/-- Quotient by a positive value; it never overflows for a divisor of at least one. -/
def dividedBy (x y : Binary64) : Binary64 :=
  (x.timesRatio? 1 y.mantissa (-y.exponent)).getD (zero x.negative)

def powerOfTen (power : Nat) : Binary64 :=
  (ofRatio? false (Nat.pow 10 power) 1).getD (zero false)

/-- Divides by `10 ^ power` in steps of at most `10 ^ 308`, rounding after each. -/
def scaleDown (x : Binary64) (power : Nat) : Binary64 :=
  if power ≤ 308 then x.dividedBy (powerOfTen power)
  else if x.mantissa = 0 then x
  else scaleDown (x.dividedBy (powerOfTen 308)) (power - 308)
termination_by power

/-- Reads `significand * 10 ^ exponent`: the significand is rounded first, then
multiplied or divided by a rounded power of ten. Nothing comes out when the
magnitude is too large. -/
def ofDecimal? (negative : Bool) (significand : Nat) (exponent : Int) : Option Binary64 :=
  match ofRatio? negative significand 1 with
  | none => none
  | some x =>
    match exponent with
    | .ofNat power =>
      if x.mantissa = 0 then some x
      else if 308 < power then none
      else x.times? (powerOfTen power)
    | .negSucc power => some (x.scaleDown (power + 1))

end Binary64

end GameBundle
