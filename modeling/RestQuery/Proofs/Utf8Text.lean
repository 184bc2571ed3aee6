import RestQuery.Text.Utf8

/-!
# Bytes that are text

The strict decoder takes exactly the UTF-8 forms of texts, which are those of the core library:
`decode?_iff`. The lenient one shows something for every byte that it reads.
-/

namespace RestQuery.Text.Utf8

theorem encodeChar_eq (c : Char) : encodeChar c = String.utf8EncodeChar c := by
  have valid := valid_toNat c
  have code : c.val.toNat = c.toNat := rfl
  unfold encodeChar encodeNat String.utf8EncodeChar
  rw [code]
  generalize c.toNat = n at valid
  dsimp only
  by_cases single : n < 0x80
  · have single' : n ≤ 127 := by omega
    rw [if_pos single, if_pos single']
  have single' : ¬ n ≤ 127 := by omega
  rw [if_neg single, if_neg single']
  by_cases double : n < 0x800
  · have double' : n ≤ 2047 := by omega
    have lead : n / 64 % 32 = n / 64 := Nat.mod_eq_of_lt (by omega)
    rw [if_pos double, if_pos double', lead, Nat.add_comm (n / 64), Nat.add_comm (n % 64)]
  have double' : ¬ n ≤ 2047 := by omega
  rw [if_neg double, if_neg double']
  by_cases triple : n < 0x10000
  · have triple' : n ≤ 65535 := by omega
    have lead : n / 4096 % 16 = n / 4096 := Nat.mod_eq_of_lt (by omega)
    rw [if_pos triple, if_pos triple', lead, Nat.add_comm (n / 4096), Nat.add_comm (n / 64 % 64),
      Nat.add_comm (n % 64)]
  · have triple' : ¬ n ≤ 65535 := by omega
    have lead : n / 262144 % 8 = n / 262144 := Nat.mod_eq_of_lt (by omega)
    rw [if_neg triple, if_neg triple', lead, Nat.add_comm (n / 262144), Nat.add_comm (n / 4096 % 64),
      Nat.add_comm (n / 64 % 64), Nat.add_comm (n % 64)]

/-- The encoding is that of the core library. -/
theorem encode_eq (s : String) : encode s = s.toUTF8.data.toList := by
  have chars : encodeChar = String.utf8EncodeChar := funext encodeChar_eq
  have bytes : s.toByteArray = (s.toList.flatMap String.utf8EncodeChar).toByteArray := by
    rw [← List.utf8Encode, ← String.toByteArray_ofList, String.ofList_toList]
  rw [String.toUTF8_eq_toByteArray, bytes, List.data_toByteArray, encode, encodeChars, chars]

/-! ### Characters under way -/

/-- The bytes since the last character, and where the decoder stands after them. -/
inductive Begun : State → List Nat → Prop where
  | idle : Begun .idle []
  | ofTwo {v : Nat} (bounds : 2 ≤ v ∧ v < 32) : Begun (.inside v 0 0x80 0xBF) [0xC0 + v]
  | ofThree {v low high : Nat} (bounds : v < 16 ∧ 0x80 ≤ low ∧ high ≤ 0xBF)
      (overlong : v = 0 → 0xA0 ≤ low) (surrogate : v = 13 → high ≤ 0x9F) :
      Begun (.inside v 1 low high) [0xE0 + v]
  | ofThree₂ {v : Nat} (bounds : 32 ≤ v ∧ v < 1024) (surrogate : ¬ (0x360 ≤ v ∧ v < 0x380)) :
      Begun (.inside v 0 0x80 0xBF) [0xE0 + v / 64, 0x80 + v % 64]
  | ofFour {v low high : Nat} (bounds : v < 5 ∧ 0x80 ≤ low ∧ high ≤ 0xBF)
      (overlong : v = 0 → 0x90 ≤ low) (beyond : v = 4 → high ≤ 0x8F) :
      Begun (.inside v 2 low high) [0xF0 + v]
  | ofFour₂ {v : Nat} (bounds : 16 ≤ v ∧ v < 0x110) :
      Begun (.inside v 1 0x80 0xBF) [0xF0 + v / 64, 0x80 + v % 64]
  | ofFour₃ {v : Nat} (bounds : 0x400 ≤ v ∧ v < 0x4400) :
      Begun (.inside v 0 0x80 0xBF) [0xF0 + v / 4096, 0x80 + v / 64 % 64, 0x80 + v % 64]

/-- What one more byte comes to: a character complete, a character under way, or a gap. -/
inductive Continues (p : List Nat) : List (Option Char) × State → Prop where
  | complete {c : Char} (bytes : encodeChar c = p.map Nat.toUInt8) : Continues p ([some c], .idle)
  | going {next : State} (begun : Begun next p) : Continues p ([], next)
  | gap {out : List (Option Char)} {next : State} : Continues p (none :: out, next)

theorem encodeChar_ofNat {n : Nat} (valid : n < 0xD800 ∨ 0xDFFF < n ∧ n < 0x110000) :
    encodeChar (Char.ofNat n) = encodeNat n := by
  have char : n.isValidChar := valid
  rw [encodeChar, Char.ofNat, dif_pos char]
  rfl

theorem continues_lead (b : Nat) : Continues [b] (lead b) := by
  have begun {next : State} {first : Nat} (same : b = first) (begun : Begun next [first]) :
      Continues [b] ([], next) := .going (same ▸ begun)
  unfold lead
  split
  · next small =>
    refine .complete ?_
    rw [encodeChar_ofNat (by omega), encodeNat, if_pos small]
    rfl
  split
  · exact .gap
  split
  · exact begun (by omega) (.ofTwo (v := b - 0xC0) (by omega))
  split
  · next same => exact begun same (.ofThree (v := 0) (by decide) (by decide) (by decide))
  split
  · next same => exact begun same (.ofThree (v := 0xD) (by decide) (by decide) (by decide))
  split
  · exact begun (by omega) (.ofThree (v := b - 0xE0) (by omega) (by omega) (by omega))
  split
  · next same => exact begun same (.ofFour (v := 0) (by decide) (by decide) (by decide))
  split
  · exact begun (by omega) (.ofFour (v := b - 0xF0) (by omega) (by omega) (by omega))
  split
  · next same => exact begun same (.ofFour (v := 4) (by decide) (by decide) (by decide))
  · exact .gap

theorem apart_at_last {b : Nat} (v : Nat) (byte : 0x80 ≤ b ∧ b ≤ 0xBF) :
    (v * 64 + (b - 0x80)) / 64 = v ∧ 0x80 + (v * 64 + (b - 0x80)) % 64 = b := by omega

/-- A character of more than one byte, taken apart at its last byte. -/
theorem encodeNat_last {v b : Nat} (byte : 0x80 ≤ b ∧ b ≤ 0xBF) (bound : 2 ≤ v) :
    encodeNat (v * 64 + (b - 0x80)) =
      (if v < 32 then [0xC0 + v, b]
      else if v < 1024 then [0xE0 + v / 64, 0x80 + v % 64, b]
      else [0xF0 + v / 4096, 0x80 + v / 64 % 64, 0x80 + v % 64, b]).map Nat.toUInt8 := by
  obtain ⟨rest, last⟩ := apart_at_last v byte
  generalize v * 64 + (b - 0x80) = n at rest last
  have front : n / 4096 = v / 64 := by omega
  have first : n / 262144 = v / 4096 := by omega
  unfold encodeNat
  rw [last, rest, front, first, if_neg (by omega)]
  by_cases two : v < 32
  · rw [if_pos two, if_pos (by omega)]
    rfl
  rw [if_neg two, if_neg (by omega)]
  by_cases three : v < 1024
  · rw [if_pos three, if_pos (by omega)]
    rfl
  · rw [if_neg three, if_neg (by omega)]
    rfl

theorem continues_last {v b : Nat} {p : List Nat} (byte : 0x80 ≤ b ∧ b ≤ 0xBF) (bound : 2 ≤ v)
    (scalar : v < 0x360 ∨ 0x380 ≤ v ∧ v < 0x4400)
    (bytes : (if v < 32 then [0xC0 + v, b]
      else if v < 1024 then [0xE0 + v / 64, 0x80 + v % 64, b]
      else [0xF0 + v / 4096, 0x80 + v / 64 % 64, 0x80 + v % 64, b]) = p) :
    Continues p ([some (Char.ofNat (v * 64 + (b - 0x80)))], .idle) := by
  refine .complete ?_
  rw [encodeChar_ofNat (by omega), encodeNat_last byte bound, bytes]

/-- A byte out of range leaves a gap, so only the others matter. -/
theorem continues_inside {value missing low high b : Nat} {p : List Nat}
    (inside : low ≤ b ∧ b ≤ high → Continues p (match missing with
      | 0 => ([some (Char.ofNat (value * 64 + (b - 0x80)))], .idle)
      | m + 1 => ([], .inside (value * 64 + (b - 0x80)) m 0x80 0xBF))) :
    Continues p (step (.inside value missing low high) b) := by
  by_cases byte : low ≤ b ∧ b ≤ high
  · rw [step_inside byte.1 byte.2]
    exact inside byte
  · have gap : step (.inside value missing low high) b = (none :: (lead b).1, (lead b).2) := if_neg byte
    rw [gap]
    exact .gap

theorem continues_step {st : State} {p : List Nat} (begun : Begun st p) (b : Nat) :
    Continues (p ++ [b]) (step st b) := by
  cases begun with
  | idle => exact continues_lead b
  | @ofTwo v bounds =>
    refine continues_inside fun byte => ?_
    exact continues_last byte bounds.1 (by omega) (if_pos bounds.2)
  | @ofThree v low high bounds overlong surrogate =>
    -- The range of the second byte keeps out overlong forms and surrogates.
    refine continues_inside fun byte => ?_
    have begun : Begun (.inside (v * 64 + (b - 0x80)) 0 0x80 0xBF) _ := .ofThree₂ (by omega) (by omega)
    obtain ⟨front, last⟩ := apart_at_last v (b := b) (by omega)
    rw [front, last] at begun
    exact .going begun
  | @ofThree₂ v bounds surrogate =>
    refine continues_inside fun byte => ?_
    refine continues_last byte (by omega) (by omega) ?_
    rw [if_neg (by omega), if_pos bounds.2]
    rfl
  | @ofFour v low high bounds overlong beyond =>
    refine continues_inside fun byte => ?_
    have begun : Begun (.inside (v * 64 + (b - 0x80)) 1 0x80 0xBF) _ := .ofFour₂ (by omega)
    obtain ⟨front, last⟩ := apart_at_last v (b := b) (by omega)
    rw [front, last] at begun
    exact .going begun
  | @ofFour₂ v bounds =>
    refine continues_inside fun byte => ?_
    have begun : Begun (.inside (v * 64 + (b - 0x80)) 0 0x80 0xBF) _ := .ofFour₃ (by omega)
    obtain ⟨middle, last⟩ := apart_at_last v byte
    have front : (v * 64 + (b - 0x80)) / 4096 = v / 64 := by omega
    rw [front, middle, last] at begun
    exact .going begun
  | @ofFour₃ v bounds =>
    refine continues_inside fun byte => ?_
    refine continues_last byte (by omega) (by omega) ?_
    rw [if_neg (by omega), if_neg (by omega)]
    rfl

/-- Bytes without a gap are the characters that they are read as. -/
theorem bytes_of_scan {bs : List UInt8} {st : State} {p : List Nat} {cs : List Char}
    (begun : Begun st p) (read : scan st bs = cs.map some) :
    p.map Nat.toUInt8 ++ bs = encodeChars cs := by
  -- `p` are the bytes of the character under way, which the induction passes on.
  induction bs generalizing st p cs with
  | nil =>
    cases begun with
    | idle =>
      have none : cs = [] := List.map_eq_nil_iff.mp read.symm
      rw [none]
      rfl
    | _ => cases cs <;> cases read
  | cons b bs ih =>
    have continues := continues_step begun b.toNat
    have byte : b.toNat.toUInt8 = b := UInt8.ofNat_toNat
    rw [scan] at read
    generalize step st b.toNat = stepped at continues read
    have joined : p.map Nat.toUInt8 ++ b :: bs = (p ++ [b.toNat]).map Nat.toUInt8 ++ bs := by
      simp [byte]
    rw [joined]
    cases continues with
    | complete bytes =>
      cases cs with
      | nil => cases read
      | cons c cs =>
        obtain ⟨rfl, later⟩ : _ = c ∧ scan .idle bs = cs.map some := by simpa using read
        rw [← bytes, ← List.nil_append bs, ← List.map_nil (f := Nat.toUInt8), ih .idle later]
        rfl
    | going begun => exact ih begun read
    | gap => cases cs <;> cases read

theorem allChars?_eq_some {gs : List (Option Char)} {cs : List Char} :
    allChars? gs = some cs ↔ gs = cs.map some := by
  constructor
  · intro read
    induction gs generalizing cs with
    | nil =>
      cases read
      rfl
    | cons g gs ih =>
      cases g with
      | none => cases read
      | some c =>
        obtain ⟨rest, later, rfl⟩ := Option.map_eq_some_iff.mp read
        rw [ih later, List.map_cons]
  · rintro rfl
    exact allChars?_map_some cs

/-- The strict decoder takes the UTF-8 forms of texts and no other bytes. -/
theorem decode?_iff {bs : List UInt8} {s : String} : decode? bs = some s ↔ bs = s.toUTF8.data.toList := by
  rw [← encode_eq]
  constructor
  · intro read
    obtain ⟨cs, chars, rfl⟩ := Option.map_eq_some_iff.mp read
    have bytes := bytes_of_scan .idle (allChars?_eq_some.mp chars)
    rw [encode, String.toList_ofList, ← bytes]
    rfl
  · rintro rfl
    exact decode?_encode s

/-- The lenient decoder shows something for whatever it reads. -/
theorem decodeLenient_eq_empty {bs : List UInt8} : decodeLenient bs = "" ↔ bs = [] := by
  constructor
  · intro read
    have nothing : scan .idle bs = ([] : List Char).map some := by
      have shown := congrArg String.toList read
      rwa [decodeLenient, String.toList_ofList, String.toList_empty, List.map_eq_nil_iff] at shown
    exact bytes_of_scan .idle nothing
  · rintro rfl
    rfl

end RestQuery.Text.Utf8
