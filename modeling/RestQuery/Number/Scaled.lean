import RestQuery.Number.Binary

/-!
# Scaled decimals

A coefficient times a power of ten. Every finite number that occurs here is one, whole numbers and
binary fractions included, and has exactly one form without zeros at the end of its coefficient.
Numbers are compared in that form, so that a large exponent is never written out.
-/

namespace RestQuery.Number

/-- The number `(-1)^negative * coefficient * 10^exponent`. -/
structure Scaled where
  negative : Bool
  coefficient : Nat
  exponent : Int
  deriving DecidableEq

/-- `n * 10^e` without zeros at the end of `n`, given that `n` has at most `fuel` digits. -/
def dropZeros : Nat → Nat → Int → Nat × Int
  | 0, n, e => (n, e)
  | fuel + 1, n, e => if n % 10 = 0 ∧ n ≠ 0 then dropZeros fuel (n / 10) (e + 1) else (n, e)

namespace Scaled

/-- The same number without zeros at the end of its coefficient; zero has no sign. -/
def normal (d : Scaled) : Scaled :=
  if d.coefficient = 0 then ⟨false, 0, 0⟩
  else
    let (c, e) := dropZeros (Nat.log2 d.coefficient + 1) d.coefficient d.exponent
    ⟨d.negative, c, e⟩

def ofInt (n : Int) : Scaled := normal ⟨n < 0, n.natAbs, 0⟩

/-- A binary fraction as a decimal one: halving is multiplying by five tenths. -/
def ofBinary (b : Binary) : Scaled :=
  let k := (-b.exponent).toNat
  normal ⟨b.negative, b.mantissa * Nat.pow 2 b.exponent.toNat * Nat.pow 5 k, -(k : Int)⟩

end Scaled

example : Scaled.ofInt (-1200) = ⟨true, 12, 2⟩ := by decide +kernel

example : Scaled.ofBinary ⟨false, Nat.pow 2 52 + Nat.pow 2 51, -52⟩ = ⟨false, 15, -1⟩ := by decide +kernel

end RestQuery.Number
