import RestQuery.Number.Scaled

/-!
# Decimal texts

The number that a decimal text such as `-10.10` or `1.5E+7` stands for.
-/

namespace RestQuery.Number

/-- A number of any kind, for comparison; a finite one is in normal form. -/
inductive Quantity where
  | finite (d : Scaled)
  | infinite (negative : Bool)
  | nan
  deriving DecidableEq

namespace Quantity

/-- A number is the same as itself, unless it is a NaN. -/
def same : Quantity → Quantity → Bool
  | finite a, finite b => a == b
  | infinite a, infinite b => a == b
  | _, _ => false

end Quantity

def Double.quantity : Double → Quantity
  | .finite b => .finite (.ofBinary b)
  | .infinite negative => .infinite negative
  | .nan => .nan

/-- The most digits that a whole number may have when it is read or written. -/
def digitLimit : Nat := 4300

def digitsValue (s : List Char) : Nat := s.foldl (fun n c => n * 10 + (c.toNat - 48)) 0

/-- A sign and the rest. -/
def takeSign : List Char → Bool × List Char
  | '-' :: s => (true, s)
  | '+' :: s => (false, s)
  | s => (false, s)

/-- The number of an unsigned decimal text with an optional exponent. -/
def scaledOf (negative : Bool) (s : List Char) : Scaled :=
  let mantissa := s.takeWhile (· ≠ 'E')
  let exponent := (s.dropWhile (· ≠ 'E')).drop 1
  let whole := mantissa.takeWhile (· ≠ '.')
  let fraction := (mantissa.dropWhile (· ≠ '.')).drop 1
  let (down, magnitude) := takeSign exponent
  ⟨negative, digitsValue (whole ++ fraction),
    signed down (digitsValue magnitude) - fraction.length⟩

/-- What a decimal text stands for. -/
def decimalQuantity (text : String) : Quantity :=
  let (negative, s) := takeSign text.toList
  match s with
  | [] => .nan
  | c :: _ =>
    if c.isDigit || c == '.' then .finite (scaledOf negative s).normal
    else if c = 'I' then .infinite negative
    else .nan

/-- A NaN that cannot even be passed on quietly. -/
def isSignaling (text : String) : Bool :=
  match (takeSign text.toList).2 with
  | 's' :: _ => true
  | _ => false

example : decimalQuantity "10.10" = .finite ⟨false, 101, -1⟩ := by decide +kernel

example : decimalQuantity "-0E+9" = .finite ⟨false, 0, 0⟩ := by decide +kernel

end RestQuery.Number
