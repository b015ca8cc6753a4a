import GameBundle.Decimal.Digits
import GameBundle.Decimal.Binary64

/-!
# Shortest decimal of a binary value

Among the decimals that round to a binary value, the one with the fewest digits
is written; of several, the nearest. The two neighbours of the value on each
decimal grid are tested, from one digit upwards.
-/

namespace GameBundle.Decimal

structure Scaled where
  digits : Nat
  exponent : Int
deriving DecidableEq, Repr

namespace Shortest

/-- Numerator and denominator after multiplication by `10 ^ power`. -/
def shift (numerator denominator : Nat) : Int → Nat × Nat
  | .ofNat n => (numerator * Nat.pow 10 n, denominator)
  | .negSucc n => (numerator, denominator * Nat.pow 10 (n + 1))

/-- Number of tenfold steps that raise a ratio below one to at least one. -/
def stepsToOne (numerator denominator : Nat) : Nat → Nat
  | 0 => 0
  | steps + 1 =>
    if denominator ≤ numerator then 0
    else stepsToOne (numerator * 10) denominator steps + 1

/-- The exponent of the leading decimal digit of a ratio. -/
def decimalOrder (numerator denominator : Nat) : Int :=
  if denominator ≤ numerator then ((Decimal.digits (numerator / denominator)).length : Int) - 1
  else -(stepsToOne numerator denominator 400 : Int)

/-- Ends of the interval that rounds to `x`, and `x` itself, in quarters of its last place. -/
def quarters (x : Binary64) : Nat × Nat × Nat :=
  let below := if x.mantissa = Nat.pow 2 52 ∧ -1074 < x.exponent then 1 else 2
  (4 * x.mantissa - below, 4 * x.mantissa, 4 * x.mantissa + 2)

/-- Whether `digits * 10 ^ exponent` rounds to `x`. -/
def admits (x : Binary64) (digits : Nat) (exponent : Int) : Bool :=
  let scaled := shift digits 1 exponent
  let ratio := Binary64.shift scaled.1 scaled.2 (2 - x.exponent)
  let (low, _, high) := quarters x
  if x.mantissa % 2 = 0 then low * ratio.2 ≤ ratio.1 && ratio.1 ≤ high * ratio.2
  else low * ratio.2 < ratio.1 && ratio.1 < high * ratio.2

def onGrid? (x : Binary64) (numerator denominator : Nat) (exponent : Int) : Option Nat :=
  let scaled := shift numerator denominator (-exponent)
  let low := scaled.1 / scaled.2
  let twice := 2 * (scaled.1 % scaled.2)
  let lowFits := admits x low exponent
  let highFits := admits x (low + 1) exponent
  if lowFits && highFits then
    if twice < scaled.2 || (twice == scaled.2 && low % 2 == 0) then some low else some (low + 1)
  else if lowFits then some low
  else if highFits then some (low + 1)
  else none

/-- The first grid with a fitting neighbour, starting at `exponent` and refining. -/
def search (x : Binary64) (numerator denominator : Nat) (exponent : Int) : Nat → Scaled
  | 0 => ⟨0, 0⟩
  | grids + 1 =>
    match onGrid? x numerator denominator exponent with
    | some digits => ⟨digits, exponent⟩
    | none => search x numerator denominator (exponent - 1) grids

def trim : Nat → Scaled → Scaled
  | 0, scaled => scaled
  | steps + 1, scaled =>
    if scaled.digits % 10 = 0 then trim steps ⟨scaled.digits / 10, scaled.exponent + 1⟩ else scaled

end Shortest

def shortest (x : Binary64) : Scaled :=
  if x.mantissa = 0 then ⟨0, 0⟩
  else
    let ratio := Binary64.shift x.mantissa 1 x.exponent
    let top := Shortest.decimalOrder ratio.1 ratio.2
    Shortest.trim 20 (Shortest.search x ratio.1 ratio.2 top 18)

/-- Positional notation with a point, at least one digit on either side of it. -/
def positional (scaled : Scaled) : List Char :=
  let digits := Decimal.digits scaled.digits
  match scaled.exponent with
  | .ofNat n => digits ++ List.replicate n '0' ++ ['.', '0']
  | .negSucc n =>
    let places := n + 1
    if places < digits.length then
      digits.take (digits.length - places) ++ '.' :: digits.drop (digits.length - places)
    else '0' :: '.' :: (List.replicate (places - digits.length) '0' ++ digits)

/-- Scientific notation: one digit before the point, and an exponent that always has a sign. -/
def scientific (scaled : Scaled) : List Char :=
  let digits := Decimal.digits scaled.digits
  let order := scaled.exponent + digits.length - 1
  let mantissa := match digits with
    | [] => []
    | [digit] => [digit]
    | digit :: rest => digit :: '.' :: rest
  let sign := if order < 0 then '-' else '+'
  mantissa ++ 'e' :: sign :: Decimal.digits order.natAbs

def signed (negative : Bool) (magnitude : List Char) : List Char :=
  if negative then '-' :: magnitude else magnitude

/-- Positional for magnitudes from `10 ^ -5` to below `10 ^ 16`, else scientific. -/
def compact (x : Binary64) : List Char :=
  let scaled := shortest x
  let order := scaled.exponent + (Decimal.digits scaled.digits).length - 1
  signed x.negative
    (if -5 ≤ order ∧ order ≤ 15 then positional scaled else scientific scaled)

end GameBundle.Decimal
