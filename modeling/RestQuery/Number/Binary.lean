/-!
# Binary fractions

A finite double is a whole number times a power of two; `Double.ofBits` reads the parts off the
bits.
-/

namespace RestQuery.Number

/-- The number `(-1)^negative * mantissa * 2^exponent`. -/
structure Binary where
  negative : Bool
  mantissa : Nat
  exponent : Int
  deriving DecidableEq

/-- What the bits of a double stand for. -/
inductive Double where
  | finite (value : Binary)
  | infinite (negative : Bool)
  | nan

def Double.ofBits (bits : UInt64) : Double :=
  let n : Nat := bits.toNat
  let negative : Bool := n / Nat.pow 2 63 % 2 == 1
  let e : Nat := n / Nat.pow 2 52 % Nat.pow 2 11
  let f : Nat := n % Nat.pow 2 52
  if e = 2047 then if f = 0 then .infinite negative else .nan
  else if e = 0 then .finite ⟨negative, f, -1074⟩
  else .finite ⟨negative, f + Nat.pow 2 52, (e : Int) - 1075⟩

def Double.ofFloat (x : Float) : Double := .ofBits x.toBits

/-- The number `n` with a sign. -/
def signed (negative : Bool) (n : Nat) : Int := if negative then -(n : Int) else n

end RestQuery.Number
