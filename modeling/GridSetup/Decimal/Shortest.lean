/-! # The shortest decimal that reads back

A positive binary number `mantissa * 2 ^ exponent` stands for all reals that
round to it. Of the decimals among these, the ones with the fewest digits lie
on the coarsest grid of powers of ten that has a point there, and one of the
two points next to the number is such a point. Everything is computed in exact
natural numbers.

A `Decimal` is the number `significand * 10 ^ exponent`, and rescaling a range
counts it in multiples of `10 ^ exponent`. The powers of two are the numbers of
mantissa `leastNormal`: below them the numbers lie twice as dense, save at
`leastExponent`, where there are none denser. -/

namespace GridSetup

structure Decimal where
  significand : Nat
  exponent : Int
  deriving DecidableEq, Repr

namespace Decimal

/-- The ends of the range and the number itself, over one denominator. The
ends belong to the range if the mantissa is even. -/
structure Range where
  low : Nat
  value : Nat
  high : Nat
  denominator : Nat
  closed : Bool
  deriving DecidableEq, Repr

def leastNormal : Nat := Nat.pow 2 52

def leastExponent : Int := -1074

def Range.of (mantissa : Nat) (exponent : Int) : Range :=
  -- the range reaches half way to the next number on each side
  let scale := Nat.pow 2 (exponent - 2).toNat
  let below := if mantissa = leastNormal && exponent > leastExponent then 1 else 2
  { low := (4 * mantissa - below) * scale
    value := 4 * mantissa * scale
    high := (4 * mantissa + 2) * scale
    denominator := Nat.pow 2 (2 - exponent).toNat
    closed := mantissa % 2 == 0 }

def Range.contains (range : Range) (numerator : Nat) : Bool :=
  if range.closed then range.low ≤ numerator && numerator ≤ range.high
  else range.low < numerator && numerator < range.high

def Range.rescale (range : Range) (exponent : Int) : Range :=
  let up := Nat.pow 10 (-exponent).toNat
  { range with
    low := range.low * up
    value := range.value * up
    high := range.high * up
    denominator := range.denominator * Nat.pow 10 exponent.toNat }

/-- The whole number of the range nearest to its value, if one of the two next
to the value lies in the range. Of two that are equally near, the larger. -/
def Range.nearest? (range : Range) : Option Nat :=
  let floor := range.value / range.denominator
  let below := floor * range.denominator
  let above := below + range.denominator
  match range.contains below, range.contains above with
  | true, true => some (if range.value - below < above - range.value then floor else floor + 1)
  | true, false => some floor
  | false, true => some (floor + 1)
  | false, false => none

def digitCount (n : Nat) : Nat := (Nat.toDigits 10 n).length

/-- An exponent whose power of ten lies above the range. -/
def Range.ceiling (range : Range) : Int :=
  (digitCount (range.high / range.denominator) : Int) + 1 -
    digitCount (range.denominator / range.high)

def Range.search (range : Range) : (tries : Nat) → (exponent : Int) → Option Decimal
  | 0, _ => none
  | tries + 1, exponent =>
    match (range.rescale exponent).nearest? with
    | some significand => some { significand, exponent }
    | none => range.search tries (exponent - 1)

/-- Seventeen digits always suffice, and the ceiling lies at most two places
above the first of them. -/
def maxTries : Nat := 20

/-- The decimal with the fewest digits that reads back as the number, and of
these the nearest. The default is never used for a positive number. -/
def shortest (mantissa : Nat) (exponent : Int) : Decimal :=
  let range := Range.of mantissa exponent
  (range.search maxTries range.ceiling).getD { significand := 0, exponent := 0 }

end Decimal
end GridSetup
