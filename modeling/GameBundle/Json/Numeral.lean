import GameBundle.Decimal.Digits
import GameBundle.Json.Draft

/-!
# Reading numbers

A numeral without fraction and exponent is an integer while it fits 64 bits, with
or without sign; every other numeral is a floating-point value. Significant digits
are taken as long as they fit 64 bits. Digits of the integer part beyond those only
raise the exponent, and digits of the fraction beyond those are dropped.
-/

namespace GameBundle.Json

structure Numeral where
  negative : Bool
  whole : List Char
  fraction : List Char
  exponent : Int
  isInteger : Bool

namespace Numeral

def largest : Nat := Nat.pow 2 64 - 1

/-- Extends a significand by digits while it fits 64 bits; returns the digits left over. -/
def extend (significand : Nat) : List Char → Nat × List Char
  | [] => (significand, [])
  | c :: rest =>
    let longer := significand * 10 + Decimal.digitValue c
    if longer ≤ largest then extend longer rest else (significand, c :: rest)

def value? (numeral : Numeral) : Option Number :=
  let (head, surplus) := extend 0 numeral.whole
  let (significand, dropped) := extend head numeral.fraction
  let power : Int := surplus.length - ((numeral.fraction.length : Int) - dropped.length)
  let real := (Binary64.ofDecimal? numeral.negative significand (power + numeral.exponent)).map
    Number.real
  if numeral.isInteger && surplus.isEmpty then
    if !numeral.negative then some (.integer head)
    else if head = 0 || Nat.pow 2 63 < head then real
    else some (.integer (-head))
  else real

/-- A numeral that stops short: at the end of the text the value is unfinished. -/
def unfinished (rest : List Char) : Draft :=
  .flawed ⟨if rest.isEmpty then .endInValue else .badNumber, some .badNumber⟩

/-- Reads a sign and at least one digit of an exponent. -/
def exponent? (text : List Char) : Except (List Char) (Int × List Char) :=
  let (negative, text) := match text with
    | '-' :: rest => (true, rest)
    | '+' :: rest => (false, rest)
    | _ => (false, text)
  let digits := text.takeWhile Decimal.isDigit
  let rest := text.dropWhile Decimal.isDigit
  if digits.isEmpty then .error rest
  else
    let size : Int := Decimal.value digits 0
    .ok (if negative then -size else size, rest)

def finish (numeral : Numeral) (rest : List Char) : Draft × Option (List Char) :=
  match value? numeral with
  | some result => (.number result, some rest)
  | none => (.flawed (.lenient .numberTooLarge), some rest)

/-- Reads what follows the whole part and the fraction. -/
def readExponent (numeral : Numeral) (text : List Char) : Draft × Option (List Char) :=
  match text with
  | 'e' :: rest | 'E' :: rest =>
    match exponent? rest with
    | .ok (exponent, rest) => finish { numeral with exponent, isInteger := false } rest
    | .error rest => (unfinished rest, none)
  | _ => finish numeral text

/-- Reads the digits and what may follow them, after the sign. -/
def readMagnitude (negative : Bool) (text : List Char) : Draft × Option (List Char) :=
  let whole := text.takeWhile Decimal.isDigit
  let rest := text.dropWhile Decimal.isDigit
  if whole.isEmpty then (unfinished rest, none)
  else if whole.head? = some '0' && 1 < whole.length then (.flawed (.of .badNumber), none)
  else
    match rest with
    | '.' :: rest =>
      let fraction := rest.takeWhile Decimal.isDigit
      let rest := rest.dropWhile Decimal.isDigit
      if fraction.isEmpty then (unfinished rest, none)
      else readExponent ⟨negative, whole, fraction, 0, false⟩ rest
    | _ => readExponent ⟨negative, whole, [], 0, true⟩ rest

def read (text : List Char) : Draft × Option (List Char) :=
  match text with
  | '-' :: rest => readMagnitude true rest
  | _ => readMagnitude false text

end Numeral

end GameBundle.Json
