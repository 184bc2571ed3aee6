/-!
# Code points

A text from outside may hold a surrogate without its other half, which is a code point but no
character. Such a text is a list of points; one without halves is a list of characters.
-/

namespace RestQuery.Text

/-! ### Surrogates -/

def isHighSurrogate (n : Nat) : Bool := 0xD800 ≤ n && n < 0xDC00

def isLowSurrogate (n : Nat) : Bool := 0xDC00 ≤ n && n < 0xE000

/-- The code point of a surrogate pair. -/
def pairValue (high low : Nat) : Nat := 0x10000 + (high - 0xD800) * 1024 + (low - 0xDC00)

/-! ### Points -/

/-- A code point. -/
inductive Point where
  | char (c : Char)
  /-- Half of a surrogate pair, counted from the first surrogate. -/
  | half (n : Fin 0x800)
  deriving DecidableEq

namespace Point

def value : Point → Nat
  | char c => c.toNat
  | half n => 0xD800 + n

/-- The point with a number. -/
def ofNat (n : Nat) : Point :=
  if h : 0xD800 ≤ n ∧ n < 0xE000 then half ⟨n - 0xD800, by omega⟩ else char (Char.ofNat n)

theorem value_ofNat {n : Nat} (h : n < 0x110000) : (ofNat n).value = n := by
  unfold ofNat
  split
  · simp only [value]
    omega
  · have valid : n.isValidChar := by
      unfold Nat.isValidChar
      omega
    show (Char.ofNat n).toNat = n
    rw [Char.ofNat, dif_pos valid]
    rfl

def char? : Point → Option Char
  | char c => some c
  | half _ => none

/-- A character that has some property. -/
def holds (p : Char → Bool) : Point → Bool
  | char c => p c
  | half _ => false

/-- The points of a text. -/
def ofText (s : String) : List Point := s.toList.map char

/-- The characters of a text without halves. -/
def chars? (ps : List Point) : Option (List Char) := ps.mapM char?

theorem chars?_map_char (cs : List Char) : chars? (cs.map char) = some cs := by
  induction cs with
  | nil => rfl
  | cons c cs ih =>
    unfold chars? at ih ⊢
    simp [List.mapM_cons, char?, ih]

/-- The characters that a text shows: two halves next to each other show as the character of the
pair, and a half that stands alone as U+FFFD. -/
def shown : List Point → List Char
  | [] => []
  | char c :: ps => c :: shown ps
  | half high :: half low :: ps =>
    let (a, b) := ((half high).value, (half low).value)
    if isHighSurrogate a && isLowSurrogate b then Char.ofNat (pairValue a b) :: shown ps
    else '\uFFFD' :: shown (half low :: ps)
  | half _ :: ps => '\uFFFD' :: shown ps

theorem shown_map_char (cs : List Char) : shown (cs.map char) = cs := by
  induction cs with
  | nil => rfl
  | cons c cs ih => simp [shown, ih]

example : shown [.char 'a', .half 0x3D, .half 0x600, .half 0x600] = ['a', '😀', '\uFFFD'] := by decide

end Point

end RestQuery.Text
