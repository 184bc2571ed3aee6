import RestQuery.Number.Scaled

/-!
# Shortest digits

The fewest decimal digits that read back as a given double, and among those the ones nearest to
it. The numbers that read back as `m * 2^q` are those between the midpoints to its neighbours,
the midpoints included when `m` is even.
-/

namespace RestQuery.Number

/-- Everything is measured in units of `1 / scale`, so that only whole numbers occur. -/
structure Interval where
  low : Nat
  value : Nat
  high : Nat
  scale : Nat
  closed : Bool

/-- The numbers that read back as `m * 2^q`. -/
def Interval.of (m : Nat) (q : Int) : Interval :=
  let up := Nat.pow 2 q.toNat
  let scale := 4 * Nat.pow 2 (-q).toNat
  -- the gap below a power of two is half as wide, except above the subnormal numbers
  let below := if m = Nat.pow 2 52 ∧ q ≠ -1074 then 1 else 2
  ⟨(4 * m - below) * up, 4 * m * up, (4 * m + 2) * up, scale, m % 2 == 0⟩

def Interval.holds (i : Interval) (n : Nat) : Bool :=
  if i.closed then i.low ≤ n && n ≤ i.high else i.low < n && n < i.high

/-- The exponent `e` with `10^e ≤ value < 10^(e+1)`, searched from an estimate. -/
def decimalExponent (value scale : Nat) : Int :=
  let estimate : Int := (((Nat.log2 value : Int) - (Nat.log2 scale : Int)) * 30103) / 100000
  let atLeast (e : Int) : Bool :=
    Nat.pow 10 e.toNat * scale ≤ value * Nat.pow 10 (-e).toNat
  if atLeast (estimate + 2) then estimate + 2
  else if atLeast (estimate + 1) then estimate + 1
  else if atLeast estimate then estimate
  else if atLeast (estimate - 1) then estimate - 1
  else estimate - 2

/-- The digits of the multiple of `10^unit` in the interval that is nearest to the value. -/
def Interval.onGrid? (i : Interval) (unit : Int) : Option Nat :=
  let up := Nat.pow 10 unit.toNat
  let down := Nat.pow 10 (-unit).toNat
  let step := up * i.scale
  let value := i.value * down
  let floor := value / step
  let wide : Interval := ⟨i.low * down, value, i.high * down, i.scale * down, i.closed⟩
  let below := floor * step
  let above := (floor + 1) * step
  match wide.holds below, wide.holds above with
  | true, true =>
    if value - below < above - value then some floor
    else if above - value < value - below then some (floor + 1)
    else some (if floor % 2 = 0 then floor else floor + 1)
  | true, false => some floor
  | false, true => some (floor + 1)
  | false, false => none

/-- The digits on the first grid with a hit, of `count` grids from `unit` down. -/
def Interval.search (i : Interval) (unit : Int) : Nat → Nat × Int
  | 0 => (0, unit)
  | count + 1 =>
    match i.onGrid? unit with
    | some digits => (digits, unit)
    | none => i.search (unit - 1) count

/-- Digits `d` and exponent `e` such that `d * 10^e` is the shortest decimal that reads back as
`m * 2^q`, for `m` positive. -/
def shortest (m : Nat) (q : Int) : Nat × Int :=
  let i := Interval.of m q
  let e := decimalExponent i.value i.scale
  let (digits, unit) := i.search e 18
  dropZeros 18 digits unit

example : shortest 1 (-1074) = (5, -324) := by decide +kernel

example : shortest (Nat.pow 2 52) (-52) = (1, 0) := by decide +kernel

example : shortest 7205759403792794 (-56) = (1, -1) := by decide +kernel

end RestQuery.Number
