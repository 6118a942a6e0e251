import GridSetup.Decimal.Shortest

/-! # Plain decimal text

Numbers are written with the fewest digits that read back, in positional
notation whatever their size, without a point where there is no fraction. -/

namespace GridSetup

def Decimal.plain (decimal : Decimal) : String :=
  let digits := Nat.toDigits 10 decimal.significand
  let places := (-decimal.exponent).toNat
  let chars :=
    if places = 0 then digits ++ List.replicate decimal.exponent.toNat '0'
    else if digits.length ≤ places then
      '0' :: '.' :: (List.replicate (places - digits.length) '0' ++ digits)
    else digits.take (digits.length - places) ++
      '.' :: digits.drop (digits.length - places)
  String.ofList chars

/-- The text of a number that is neither negative nor zero nor infinite, from
the fields of its bit pattern. -/
def plainMagnitude (exponentField fraction : Nat) : String :=
  let decimal :=
    if exponentField = 0 then Decimal.shortest fraction Decimal.leastExponent
    else Decimal.shortest (Decimal.leastNormal + fraction) ((exponentField : Int) - 1075)
  decimal.plain

def plainText (x : Float) : String :=
  let bits := x.toBits.toNat
  let exponentField := bits / Nat.pow 2 52 % Nat.pow 2 11
  let fraction := bits % Nat.pow 2 52
  if exponentField = 2047 && fraction != 0 then "NaN"
  else
    let sign := if bits < Nat.pow 2 63 then "" else "-"
    if exponentField = 2047 then sign ++ "inf"
    else if exponentField = 0 && fraction = 0 then sign ++ "0"
    else sign ++ plainMagnitude exponentField fraction

end GridSetup
