/-!
# UTF-8

Encoding of characters and two ways of decoding bytes. Both read the bytes as one list of
characters and gaps, a gap standing for one maximal ill-formed subsequence: the strict decoder
refuses a gap, the lenient one shows it as U+FFFD. `decode?_encode` says that text comes back from
its bytes.
-/

namespace RestQuery.Text.Utf8

/-- The UTF-8 form of one code point. -/
def encodeNat (n : Nat) : List UInt8 :=
  if n < 0x80 then [n.toUInt8]
  else if n < 0x800 then [(0xC0 + n / 64).toUInt8, (0x80 + n % 64).toUInt8]
  else if n < 0x10000 then
    [(0xE0 + n / 4096).toUInt8, (0x80 + n / 64 % 64).toUInt8, (0x80 + n % 64).toUInt8]
  else
    [(0xF0 + n / 262144).toUInt8, (0x80 + n / 4096 % 64).toUInt8,
      (0x80 + n / 64 % 64).toUInt8, (0x80 + n % 64).toUInt8]

def encodeChar (c : Char) : List UInt8 := encodeNat c.toNat

def encodeChars (s : List Char) : List UInt8 := s.flatMap encodeChar

def encode (s : String) : List UInt8 := encodeChars s.toList

/-- Where the decoder stands: between characters, or inside one with `value` read so far,
`missing + 1` bytes to come and the next of them between `low` and `high`. -/
inductive State where
  | idle
  | inside (value missing low high : Nat)

/-- What a byte says when it starts a character. -/
def lead (b : Nat) : List (Option Char) × State :=
  if b < 0x80 then ([some (Char.ofNat b)], .idle)
  else if b < 0xC2 then ([none], .idle)
  else if b < 0xE0 then ([], .inside (b - 0xC0) 0 0x80 0xBF)
  else if b = 0xE0 then ([], .inside 0 1 0xA0 0xBF)
  else if b = 0xED then ([], .inside 0xD 1 0x80 0x9F)
  else if b < 0xF0 then ([], .inside (b - 0xE0) 1 0x80 0xBF)
  else if b = 0xF0 then ([], .inside 0 2 0x90 0xBF)
  else if b < 0xF4 then ([], .inside (b - 0xF0) 2 0x80 0xBF)
  else if b = 0xF4 then ([], .inside 4 2 0x80 0x8F)
  else ([none], .idle)

/-- One byte of input: the characters and gaps it completes, and the next state. -/
def step (st : State) (b : Nat) : List (Option Char) × State :=
  match st with
  | .idle => lead b
  | .inside value missing low high =>
    if low ≤ b ∧ b ≤ high then
      let value := value * 64 + (b - 0x80)
      match missing with
      | 0 => ([some (Char.ofNat value)], .idle)
      | m + 1 => ([], .inside value m 0x80 0xBF)
    else
      let (out, next) := lead b
      (none :: out, next)

/-- The characters and gaps of the input read from state `st`. -/
def scan (st : State) : List UInt8 → List (Option Char)
  | [] => match st with
    | .idle => []
    | .inside .. => [none]
  | b :: bs => (step st b.toNat).1 ++ scan (step st b.toNat).2 bs

/-- The characters, if no gap stands between them. -/
def allChars? : List (Option Char) → Option (List Char)
  | [] => some []
  | none :: _ => none
  | some c :: rest => (allChars? rest).map (c :: ·)

/-- The text that well-formed bytes encode. -/
def decode? (bs : List UInt8) : Option String := (allChars? (scan .idle bs)).map String.ofList

/-- The text of any bytes, with U+FFFD for each gap. -/
def decodeLenient (bs : List UInt8) : String :=
  String.ofList ((scan .idle bs).map (·.getD '\uFFFD'))

/-- The offset and the length of the first gap in bytes read from state `st`, where `start` is the
offset of the character under way and `here` that of the next byte. -/
def gapFrom (st : State) (start here : Nat) : List UInt8 → Nat × Nat
  | [] => (start, here - start)
  | b :: bs =>
    match st, step st b.toNat with
    | .idle, ([none], _) => (here, 1)
    | .idle, (_, next) => gapFrom next here (here + 1) bs
    | .inside .., (none :: _, _) => (start, here - start)
    | .inside .., (_, .idle) => gapFrom .idle (here + 1) (here + 1) bs
    | .inside .., (_, next) => gapFrom next start (here + 1) bs

/-- The offset and the length of the first ill-formed subsequence. -/
def firstGap (bs : List UInt8) : Nat × Nat := gapFrom .idle 0 0 bs

example : firstGap [0x61, 0xE2, 0x82, 0x41] = (1, 2) := by decide

example : firstGap [0xED, 0xA0, 0x80] = (0, 1) := by decide

theorem allChars?_map_some (s : List Char) : allChars? (s.map some) = some s := by
  induction s with
  | nil => rfl
  | cons c s ih => simp [allChars?, ih]

/-! ### Reading what was written -/

theorem toNat_toUInt8 {n : Nat} (h : n < 256) : n.toUInt8.toNat = n := by
  simp [Nat.toUInt8, Nat.mod_eq_of_lt h]

/-- The code points of characters. -/
theorem valid_toNat (c : Char) : c.toNat < 0xD800 ∨ 0xDFFF < c.toNat ∧ c.toNat < 0x110000 := c.valid

theorem scan_cons (st : State) {b : Nat} (h : b < 256) (bs : List UInt8) :
    scan st (b.toUInt8 :: bs) = (step st b).1 ++ scan (step st b).2 bs := by
  rw [scan, toNat_toUInt8 h]

/-- A byte that continues a character. -/
theorem step_inside {value missing low high b : Nat} (h₁ : low ≤ b) (h₂ : b ≤ high) :
    step (.inside value missing low high) b =
      match missing with
      | 0 => ([some (Char.ofNat (value * 64 + (b - 0x80)))], .idle)
      | m + 1 => ([], .inside (value * 64 + (b - 0x80)) m 0x80 0xBF) := by
  simp [step, h₁, h₂]

theorem scan_encodeChar (c : Char) (rest : List UInt8) :
    scan .idle (encodeChar c ++ rest) = some c :: scan .idle rest := by
  have hv := valid_toNat c
  have hc : Char.ofNat c.toNat = c := Char.ofNat_toNat c
  generalize hn : c.toNat = n at hv hc
  unfold encodeChar encodeNat
  rw [hn]
  split
  · rename_i h
    rw [List.cons_append, scan_cons _ (by omega)]
    simp [step, lead, h, hc]
  split
  · rename_i h₁ h₂
    simp only [List.cons_append, List.nil_append]
    rw [scan_cons _ (by omega), scan_cons _ (by omega)]
    have e : lead (0xC0 + n / 64) = ([], .inside (n / 64) 0 0x80 0xBF) := by
      unfold lead
      rw [if_neg (by omega), if_neg (by omega), if_pos (by omega)]
      simp
    rw [show step .idle (0xC0 + n / 64) = _ from e]
    simp only [List.nil_append]
    rw [step_inside (by omega) (by omega)]
    simp only [show n / 64 * 64 + (0x80 + n % 64 - 0x80) = n by omega, hc]
    rfl
  split
  · rename_i h₁ h₂ h₃
    simp only [List.cons_append, List.nil_append]
    rw [scan_cons _ (by omega), scan_cons _ (by omega), scan_cons _ (by omega)]
    obtain ⟨low, high, e, h₄, h₅⟩ : ∃ low high,
        lead (0xE0 + n / 4096) = ([], .inside (n / 4096) 1 low high) ∧
          low ≤ 0x80 + n / 64 % 64 ∧ 0x80 + n / 64 % 64 ≤ high := by
      unfold lead
      rw [if_neg (by omega), if_neg (by omega), if_neg (by omega)]
      by_cases h0 : n / 4096 = 0
      · exact ⟨0xA0, 0xBF, by simp [h0], by omega, by omega⟩
      · by_cases hD : n / 4096 = 0xD
        · exact ⟨0x80, 0x9F, by simp [hD], by omega, by omega⟩
        · refine ⟨0x80, 0xBF, ?_, by omega, by omega⟩
          rw [if_neg (by omega), if_neg (by omega), if_pos (by omega)]
          simp
    rw [show step .idle (0xE0 + n / 4096) = _ from e]
    simp only [List.nil_append]
    rw [step_inside h₄ h₅]
    simp only [List.nil_append]
    rw [step_inside (by omega) (by omega)]
    simp only [show (n / 4096 * 64 + (0x80 + n / 64 % 64 - 0x80)) * 64 +
      (0x80 + n % 64 - 0x80) = n by omega, hc]
    rfl
  · rename_i h₁ h₂ h₃
    simp only [List.cons_append, List.nil_append]
    rw [scan_cons _ (by omega), scan_cons _ (by omega), scan_cons _ (by omega),
      scan_cons _ (by omega)]
    obtain ⟨low, high, e, h₄, h₅⟩ : ∃ low high,
        lead (0xF0 + n / 262144) = ([], .inside (n / 262144) 2 low high) ∧
          low ≤ 0x80 + n / 4096 % 64 ∧ 0x80 + n / 4096 % 64 ≤ high := by
      unfold lead
      rw [if_neg (by omega), if_neg (by omega), if_neg (by omega), if_neg (by omega),
        if_neg (by omega), if_neg (by omega)]
      by_cases h0 : n / 262144 = 0
      · exact ⟨0x90, 0xBF, by simp [h0], by omega, by omega⟩
      · by_cases hD : n / 262144 = 4
        · exact ⟨0x80, 0x8F, by simp [hD], by omega, by omega⟩
        · refine ⟨0x80, 0xBF, ?_, by omega, by omega⟩
          rw [if_neg (by omega), if_pos (by omega)]
          simp
    rw [show step .idle (0xF0 + n / 262144) = _ from e]
    simp only [List.nil_append]
    rw [step_inside h₄ h₅]
    simp only [List.nil_append]
    rw [step_inside (by omega) (by omega)]
    simp only [List.nil_append]
    rw [step_inside (by omega) (by omega)]
    simp only [show ((n / 262144 * 64 + (0x80 + n / 4096 % 64 - 0x80)) * 64 +
      (0x80 + n / 64 % 64 - 0x80)) * 64 + (0x80 + n % 64 - 0x80) = n by omega, hc]
    rfl

/-- Decoding goes through the encoded characters one by one. -/
theorem scan_encodeChars (s : List Char) (rest : List UInt8) :
    scan .idle (encodeChars s ++ rest) = s.map some ++ scan .idle rest := by
  induction s with
  | nil => rfl
  | cons c s ih =>
    rw [show encodeChars (c :: s) = encodeChar c ++ encodeChars s from rfl, List.append_assoc,
      scan_encodeChar, ih]
    rfl

theorem scan_encode (s : String) : scan .idle (encode s) = s.toList.map some := by
  have := scan_encodeChars s.toList []
  simpa [encode, scan] using this

/-- Text comes back from its bytes. -/
theorem decode?_encode (s : String) : decode? (encode s) = some s := by
  simp [decode?, scan_encode, allChars?_map_some]

/-- The lenient decoder agrees on well-formed bytes. -/
theorem decodeLenient_encode (s : String) : decodeLenient (encode s) = s := by
  simp [decodeLenient, scan_encode, Function.comp_def]

end RestQuery.Text.Utf8
