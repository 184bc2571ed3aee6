import RestQuery.Number.Shortest
import RestQuery.Text.Basic

/-!
# The text of a double

A double is written with its shortest digits: positionally while the decimal point stays within
sixteen digits of the front and four zeros of it, and with an exponent of at least two digits
beyond that.
-/

namespace RestQuery.Number

/-- The unsigned text of `digits * 10^exponent`, where `digits` does not end in zero. -/
def decimalText (digits : Nat) (exponent : Int) : String :=
  let ds := (toString digits).toList
  -- the value is 0.ds * 10^point
  let point := (ds.length : Int) + exponent
  if -3 ≤ point ∧ point ≤ 16 then
    if point ≤ 0 then
      String.ofList ('0' :: '.' :: List.replicate (-point).toNat '0' ++ ds)
    else if point < ds.length then
      String.ofList (ds.take point.toNat ++ '.' :: ds.drop point.toNat)
    else
      String.ofList (ds ++ List.replicate (point.toNat - ds.length) '0' ++ ['.', '0'])
  else
    let fraction := match ds.tail with
      | [] => []
      | rest => '.' :: rest
    let e := point - 1
    let sign := if e < 0 then "-" else "+"
    String.ofList (ds.take 1 ++ fraction) ++ "e" ++ sign ++ Text.padded 2 e.natAbs

/-- How the numbers without digits are spelled. -/
structure Spelling where
  nan : String
  infinity : String

def plainSpelling : Spelling := ⟨"nan", "inf"⟩

def Double.text (spelling : Spelling) : Double → String
  | .nan => spelling.nan
  | .infinite negative => (if negative then "-" else "") ++ spelling.infinity
  | .finite ⟨negative, mantissa, exponent⟩ =>
    let sign := if negative then "-" else ""
    if mantissa = 0 then sign ++ "0.0"
    else
      let (digits, e) := shortest mantissa exponent
      sign ++ decimalText digits e

def floatText (spelling : Spelling) (x : Float) : String := (Double.ofFloat x).text spelling

example : decimalText 1 16 = "1e+16" := by decide +kernel

example : decimalText 1 (-5) = "1e-05" := by decide +kernel

example : decimalText 1 (-4) = "0.0001" := by decide +kernel

example : decimalText 15 (-1) = "1.5" := by decide +kernel

/-! ### Reading -/

/-- The double nearest to `digits * 10^exponent`. Exponents far out of range are cut off before any
power is computed: the number lies between the powers of ten on both sides of `point`. -/
def floatOfDecimal (negative : Bool) (digits : Nat) (exponent : Int) : Float :=
  let point := ((toString digits).length : Int) + exponent
  let x :=
    if digits = 0 then 0
    else if point > 400 then Float.ofBits 0x7FF0000000000000
    else if point < -400 then 0
    else Float.ofScientific digits (exponent < 0) exponent.natAbs
  if negative then -x else x

end RestQuery.Number
