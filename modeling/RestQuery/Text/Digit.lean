import RestQuery.Text.Ranges

/-!
# Digits

Two classes of digit: the decimal digits, which have a place value and come in runs of ten, and
the remaining digit signs (superscripts, circled figures, ...), which only look like a number.
-/

namespace RestQuery.Text

/-- The zeros of the decimal systems; the nine code points after each are its other digits. -/
def decimalZeros : List Nat :=
  [
    48, 1632, 1776, 1984, 2406, 2534, 2662, 2790, 2918, 3046, 3174, 3302, 3430, 3558, 3664, 3792,
    3872, 4160, 4240, 6112, 6160, 6470, 6608, 6784, 6800, 6992, 7088, 7232, 7248, 42528, 43216,
    43264, 43472, 43504, 43600, 44016, 65296, 66720, 68912, 69734, 69872, 69942, 70096, 70384,
    70736, 70864, 71248, 71360, 71472, 71904, 72016, 72784, 73040, 73120, 92768, 92864, 93008,
    120782, 120792, 120802, 120812, 120822, 123200, 123632, 125264, 130032]

/-- Digit signs without a place value. -/
def figureRanges : List (Nat × Nat) :=
  [
    (178, 179), (185, 185), (4969, 4977), (6618, 6618), (8304, 8304), (8308, 8313), (8320, 8329),
    (9312, 9320), (9332, 9340), (9352, 9360), (9450, 9450), (9461, 9469), (9471, 9471),
    (10102, 10110), (10112, 10120), (10122, 10130), (68160, 68163), (69216, 69224),
    (69714, 69722), (127232, 127242)]

/-- The value of a decimal digit. -/
def decimalValue? (c : Char) : Option Nat :=
  (decimalZeros.find? fun z => z ≤ c.toNat && c.toNat < z + 10).map (c.toNat - ·)

def isDecimal (c : Char) : Bool := (decimalValue? c).isSome

def isDigit (c : Char) : Bool := isDecimal c || inRanges figureRanges c

/-- The number that decimal digits write, most significant first, continuing from `acc`. -/
def readDecimal? (acc : Nat) : List Char → Option Nat
  | [] => some acc
  | c :: cs => match decimalValue? c with
    | some d => readDecimal? (acc * 10 + d) cs
    | none => none

theorem isDigit_of_isDecimal {c : Char} (h : isDecimal c = true) : isDigit c = true := by
  simp [isDigit, h]

theorem readDecimal?_isSome (acc : Nat) (s : List Char) :
    (readDecimal? acc s).isSome = s.all isDecimal := by
  induction s generalizing acc with
  | nil => rfl
  | cons c cs ih =>
    cases h : decimalValue? c with
    | none => simp [readDecimal?, isDecimal, h]
    | some d => simp [readDecimal?, isDecimal, h, ih]

end RestQuery.Text
