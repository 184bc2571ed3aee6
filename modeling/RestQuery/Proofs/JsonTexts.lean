import RestQuery.Json.Notation
import RestQuery.Json.Parser
import RestQuery.Proofs.Outcome

/-!
# Texts in JSON are read back

A text is written point by point, and each escape is read as the point that it was written for.
Only the two halves of a surrogate pair that stand next to each other are read as one point, the
character of the pair.
-/

namespace RestQuery.Json

open Text

/-- A character of ASCII that shows, or the space. -/
def Graphic (c : Char) : Prop := 32 ≤ c.toNat ∧ c.toNat < 127

/-- Characters as points. -/
abbrev pointsOf (cs : List Char) : List Point := cs.map .char

/-! ### Escapes -/

theorem graphic_hex (width n : Nat) : ∀ c ∈ hex width n, Graphic c := by
  have digit : ∀ k < 16, 32 ≤ (hexDigit k).toNat ∧ (hexDigit k).toNat < 127 := by decide
  induction width generalizing n with
  | zero => simp [hex]
  | succ width ih =>
    intro c present
    rw [hex, List.mem_append, List.mem_singleton] at present
    rcases present with present | rfl
    · exact ih _ c present
    · exact digit _ (Nat.mod_lt _ (by decide))

theorem graphic_escapeUnit (n : Nat) : ∀ c ∈ escapeUnit n, Graphic c := by
  intro c present
  rcases List.mem_cons.mp present with rfl | present
  · exact ⟨by decide, by decide⟩
  rcases List.mem_cons.mp present with rfl | present
  · exact ⟨by decide, by decide⟩
  · exact graphic_hex 4 n c present

theorem hex4?_hex {n : Nat} (small : n < 0x10000) (s : List Point) :
    hex4? (pointsOf (hex 4 n) ++ s) = some (n, s) := by
  have digit (k : Nat) : hexValue? (hexDigit (k % 16)) = some (k % 16) :=
    hexValue?_hexDigit (k % 16) (by omega)
  have value : (((n / 16 / 16 / 16 % 16 * 16 + n / 16 / 16 % 16) * 16 + n / 16 % 16) * 16 +
      n % 16) = n := by omega
  simp [pointsOf, hex, hex4?, digit, value]

theorem pointsOf_escapeUnit (n : Nat) (s : List Point) :
    pointsOf (escapeUnit n) ++ s = .char '\\' :: .char 'u' :: (pointsOf (hex 4 n) ++ s) := rfl

theorem lowSurrogate?_escapeUnit {n : Nat} (small : n < 0x10000) (s : List Point) :
    lowSurrogate? (pointsOf (escapeUnit n) ++ s) =
      if isLowSurrogate n then some (n, s) else none := by
  rw [pointsOf_escapeUnit, lowSurrogate?, hex4?_hex small]
  rfl

/-- A unit is read on its own unless it is the first half of a pair and the second half follows. -/
theorem escaped?_unit {n : Nat} (small : n < 0x10000) {s : List Point}
    (alone : isHighSurrogate n = true → lowSurrogate? s = none) :
    escaped? (.char 'u' :: (pointsOf (hex 4 n) ++ s)) = some (.ofNat n, s) := by
  simp only [escaped?, if_true, hex4?_hex small, Option.bind_eq_bind, Option.bind_some]
  cases next : lowSurrogate? s with
  | none => rfl
  | some found =>
    cases single : isHighSurrogate n with
    | false => rfl
    | true =>
      rw [alone single] at next
      cases next

theorem escaped?_pair {high low : Nat} (high_small : high < 0x10000) (low_small : low < 0x10000)
    (first : isHighSurrogate high = true) (second : isLowSurrogate low = true) (s : List Point) :
    escaped? (.char 'u' :: (pointsOf (hex 4 high) ++ (pointsOf (escapeUnit low) ++ s))) =
      some (.ofNat (pairValue high low), s) := by
  simp [escaped?, hex4?_hex high_small, lowSurrogate?_escapeUnit low_small, first, second]

/-- The shapes that a point is written in. -/
inductive Escape : Point → List Char → Prop where
  | plain {c : Char} (no_quote : c ≠ '"') (no_backslash : c ≠ '\\') (graphic : Graphic c) :
      Escape (.char c) [c]
  | short {c e : Char} (known : shortEscape? e = some c) (letter : e ≠ 'u') (graphic : Graphic e) :
      Escape (.char c) ['\\', e]
  | unit {n : Nat} (small : n < 0x10000) : Escape (.ofNat n) (escapeUnit n)
  | pair {high low : Nat} (first : isHighSurrogate high = true)
      (second : isLowSurrogate low = true) :
      Escape (.ofNat (pairValue high low)) (escapeUnit high ++ escapeUnit low)

theorem lt_of_isHighSurrogate {n : Nat} (high : isHighSurrogate n = true) :
    0xD800 ≤ n ∧ n < 0xDC00 := by simpa [isHighSurrogate] using high

theorem lt_of_isLowSurrogate {n : Nat} (low : isLowSurrogate n = true) :
    0xDC00 ≤ n ∧ n < 0xE000 := by simpa [isLowSurrogate] using low

theorem ofNat_toNat_char (c : Char) : Point.ofNat c.toNat = .char c := by
  have valid := Utf8.valid_toNat c
  rw [Point.ofNat, dif_neg (by omega), Char.ofNat_toNat]

theorem ofNat_value (p : Point) : Point.ofNat p.value = p := by
  cases p with
  | char c => exact ofNat_toNat_char c
  | half n => simp [Point.ofNat, Point.value, Nat.add_lt_add_left n.isLt 0xD800]

theorem escape_escapeChar (c : Char) : Escape (.char c) (escapeChar c) := by
  have valid := Utf8.valid_toNat c
  have short {d e : Char} (same : c = d) (known : shortEscape? e = some d) (letter : e ≠ 'u')
      (graphic : Graphic e) : Escape (.char c) ['\\', e] := same ▸ .short known letter graphic
  have control {n : Nat} (code : c.toNat = n) : c = Char.ofNat n := by
    rw [← code, Char.ofNat_toNat]
  unfold escapeChar
  split
  · next quote => exact short quote rfl (by decide) ⟨by decide, by decide⟩
  split
  · next backslash => exact short backslash rfl (by decide) ⟨by decide, by decide⟩
  split
  · next line_feed => exact short line_feed rfl (by decide) ⟨by decide, by decide⟩
  split
  · next carriage => exact short carriage rfl (by decide) ⟨by decide, by decide⟩
  split
  · next tab => exact short tab rfl (by decide) ⟨by decide, by decide⟩
  split
  · next backspace => exact short (control backspace) rfl (by decide) ⟨by decide, by decide⟩
  split
  · next form_feed => exact short (control form_feed) rfl (by decide) ⟨by decide, by decide⟩
  split
  · next no_quote no_backslash _ _ _ _ _ graphic =>
    exact .plain no_quote no_backslash graphic
  split
  · next small => exact ofNat_toNat_char c ▸ .unit small
  · next large =>
    have high : isHighSurrogate (0xD800 + (c.toNat - 0x10000) / 1024) = true := by
      simp only [isHighSurrogate, Bool.and_eq_true, decide_eq_true_eq]
      omega
    have low : isLowSurrogate (0xDC00 + (c.toNat - 0x10000) % 1024) = true := by
      simp only [isLowSurrogate, Bool.and_eq_true, decide_eq_true_eq]
      omega
    have value : pairValue (0xD800 + (c.toNat - 0x10000) / 1024)
        (0xDC00 + (c.toNat - 0x10000) % 1024) = c.toNat := by
      unfold pairValue
      omega
    have point := ofNat_toNat_char c
    rw [← value] at point
    exact point ▸ .pair high low

theorem escape_escapePoint (p : Point) : Escape p (escapePoint p) := by
  cases p with
  | char c => exact escape_escapeChar c
  | half n =>
    have small : (Point.half n).value < 0x10000 := by
      simp only [Point.value]
      omega
    have escape := Escape.unit small
    rwa [ofNat_value] at escape

/-! ### Reading texts -/

namespace Escape

variable {p : Point} {e : List Char} {s : List Point}

theorem graphic (escape : Escape p e) : ∀ c ∈ e, Graphic c := by
  cases escape with
  | plain _ _ graphic => simpa using graphic
  | short _ _ graphic => simpa using ⟨⟨by decide, by decide⟩, graphic⟩
  | @unit n => exact graphic_escapeUnit n
  | @pair high low =>
    intro c present
    rcases List.mem_append.mp present with present | present
    · exact graphic_escapeUnit high c present
    · exact graphic_escapeUnit low c present

theorem ne_nil (escape : Escape p e) : e ≠ [] := by
  cases escape <;> simp [escapeUnit]

/-- What stands before an escape finds no second half of a pair in it. -/
theorem lowSurrogate?_eq_none (escape : Escape p e) (no_low : isLowSurrogate p.value = false) :
    lowSurrogate? (pointsOf e ++ s) = none := by
  cases escape with
  | plain _ no_backslash => simp [pointsOf, lowSurrogate?, no_backslash]
  | short _ letter => simp [pointsOf, lowSurrogate?, letter]
  | @unit n small =>
    rw [Point.value_ofNat (by omega)] at no_low
    rw [lowSurrogate?_escapeUnit small, no_low]
    rfl
  | @pair high low first second =>
    have bounds := lt_of_isHighSurrogate first
    have no_low : isLowSurrogate high = false := by
      simp only [isLowSurrogate, Bool.and_eq_false_imp, decide_eq_true_eq, decide_eq_false_iff_not]
      omega
    rw [pointsOf, List.map_append, List.append_assoc, lowSurrogate?_escapeUnit (by omega), no_low]
    rfl

theorem stringBody_eq (escape : Escape p e) (fuel : Nat)
    (alone : isHighSurrogate p.value = true → lowSurrogate? s = none) :
    stringBody (fuel + 1) (pointsOf e ++ s) = do
      let (ps, rest) ← stringBody fuel s
      return (p :: ps, rest) := by
  cases escape with
  | @plain c no_quote no_backslash graphic =>
    have visible : ¬ (Point.char c).value < 32 := Nat.not_lt.mpr graphic.1
    simp [pointsOf, stringBody, no_quote, no_backslash, visible]
  | short known letter => simp [pointsOf, stringBody, escaped?, letter, known]
  | @unit n small =>
    rw [Point.value_ofNat (by omega)] at alone
    rw [pointsOf_escapeUnit, stringBody]
    simp [escaped?_unit small alone]
  | @pair high low first second =>
    have high_bounds := lt_of_isHighSurrogate first
    have low_bounds := lt_of_isLowSurrogate second
    have read := escaped?_pair (by omega) (by omega) first second s
    rw [pointsOf, List.map_append, List.append_assoc, ← pointsOf, pointsOf_escapeUnit, stringBody]
    simp [read]

end Escape

/-- The points of a text where two halves of a pair that stand next to each other are one. -/
def joined : List Point → List Point
  | [] => []
  | [p] => [p]
  | p :: q :: ps =>
    if isHighSurrogate p.value && isLowSurrogate q.value then
      .ofNat (pairValue p.value q.value) :: joined ps
    else p :: joined (q :: ps)

theorem isHighSurrogate_char (c : Char) : isHighSurrogate (Point.char c).value = false := by
  have valid := Utf8.valid_toNat c
  rw [Bool.eq_false_iff]
  intro high
  have bounds : 0xD800 ≤ c.toNat ∧ c.toNat < 0xDC00 := lt_of_isHighSurrogate high
  omega

theorem joined_pointsOf (cs : List Char) : joined (pointsOf cs) = pointsOf cs := by
  induction cs with
  | nil => rfl
  | cons c cs ih =>
    cases cs with
    | nil => rfl
    | cons d cs =>
      simp only [pointsOf, List.map_cons] at ih ⊢
      rw [joined, isHighSurrogate_char, Bool.false_and, if_neg Bool.false_ne_true, ih]

theorem escapePoint_of_surrogate {p : Point} (low : 0xD800 ≤ p.value) (high : p.value < 0xE000) :
    escapePoint p = escapeUnit p.value := by
  cases p with
  | char c =>
    have valid := Utf8.valid_toNat c
    simp only [Point.value] at low high
    omega
  | half n => rfl

section Pairs

variable {high low : Nat}

theorem pairValue_bounds (first : isHighSurrogate high = true)
    (second : isLowSurrogate low = true) :
    0x10000 ≤ pairValue high low ∧ pairValue high low < 0x110000 := by
  have high_bounds := lt_of_isHighSurrogate first
  have low_bounds := lt_of_isLowSurrogate second
  unfold pairValue
  omega

theorem ofNat_pairValue (first : isHighSurrogate high = true)
    (second : isLowSurrogate low = true) :
    ∃ c : Char, Point.ofNat (pairValue high low) = .char c ∧ c.toNat = pairValue high low := by
  have bounds := pairValue_bounds first second
  have same : Point.ofNat (pairValue high low) = .char (Char.ofNat (pairValue high low)) := by
    rw [Point.ofNat, dif_neg (by omega)]
  have value := Point.value_ofNat bounds.2
  rw [same] at value
  exact ⟨_, same, value⟩

/-- The character of a pair is written as the two halves are. -/
theorem escapePoint_pairValue (first : isHighSurrogate high = true)
    (second : isLowSurrogate low = true) :
    escapePoint (.ofNat (pairValue high low)) = escapeUnit high ++ escapeUnit low := by
  have high_bounds := lt_of_isHighSurrogate first
  have low_bounds := lt_of_isLowSurrogate second
  have bounds := pairValue_bounds first second
  obtain ⟨c, point, value⟩ := ofNat_pairValue first second
  have other (d : Char) (small : d.toNat < 0x10000) : c ≠ d := by
    rintro rfl
    omega
  have units : 0xD800 + (c.toNat - 0x10000) / 1024 = high ∧
      0xDC00 + (c.toNat - 0x10000) % 1024 = low := by
    rw [value]
    unfold pairValue
    omega
  rw [point, escapePoint, escapeChar, if_neg (other _ (by decide)), if_neg (other _ (by decide)),
    if_neg (other _ (by decide)), if_neg (other _ (by decide)), if_neg (other _ (by decide)),
    if_neg (by omega), if_neg (by omega), if_neg (by omega), if_neg (by omega)]
  simp only [units]

end Pairs

theorem flatMap_escapePoint_pair {p q : Point}
    (pair : (isHighSurrogate p.value && isLowSurrogate q.value) = true) (ps : List Point) :
    (p :: q :: ps).flatMap escapePoint =
      escapePoint (.ofNat (pairValue p.value q.value)) ++ ps.flatMap escapePoint := by
  obtain ⟨first, second⟩ := Bool.and_eq_true_iff.mp pair
  have high := lt_of_isHighSurrogate first
  have low := lt_of_isLowSurrogate second
  rw [escapePoint_pairValue first second, List.flatMap_cons, List.flatMap_cons,
    escapePoint_of_surrogate high.1 (by omega), escapePoint_of_surrogate (by omega) low.2,
    List.append_assoc]

theorem flatMap_escapePoint_joined (ps : List Point) :
    (joined ps).flatMap escapePoint = ps.flatMap escapePoint := by
  fun_induction joined ps with
  | case1 => rfl
  | case2 p => rfl
  | case3 p q ps pair ih => rw [List.flatMap_cons, ih, ← flatMap_escapePoint_pair pair]
  | case4 p q ps single ih => rw [List.flatMap_cons, List.flatMap_cons, ih]

/-- A point that is not joined with the next one is read on its own. -/
theorem stringBody_alone {p : Point} {ps : List Point}
    (alone : ∀ q ∈ ps.head?, (isHighSurrogate p.value && isLowSurrogate q.value) = false)
    (fuel : Nat) (rest : List Point) :
    let s := pointsOf (ps.flatMap escapePoint) ++ .char '"' :: rest
    stringBody (fuel + 1) (pointsOf ((p :: ps).flatMap escapePoint) ++ .char '"' :: rest) = do
      let (qs, rest) ← stringBody fuel s
      return (p :: qs, rest) := by
  intro s
  have no_low : isHighSurrogate p.value = true → lowSurrogate? s = none := by
    intro high
    cases ps with
    | nil => rfl
    | cons q ps =>
      have low : isLowSurrogate q.value = false := by simpa [high] using alone q rfl
      simp only [s, List.flatMap_cons, pointsOf, List.map_append, List.append_assoc]
      exact (escape_escapePoint q).lowSurrogate?_eq_none low
  rw [List.flatMap_cons, pointsOf, List.map_append, List.append_assoc]
  exact (escape_escapePoint p).stringBody_eq fuel no_low

/-- What is read between the quotes of a text. -/
theorem stringBody_points (ps : List Point) {fuel : Nat} (enough : ps.length ≤ fuel)
    (rest : List Point) :
    stringBody (fuel + 1) (pointsOf (ps.flatMap escapePoint) ++ .char '"' :: rest) =
      .ok (joined ps, rest) := by
  fun_induction joined ps generalizing fuel with
  | case1 => rfl
  | case2 p =>
    obtain ⟨fuel, rfl⟩ : ∃ k, fuel = k + 1 := ⟨fuel - 1, by simp at enough; omega⟩
    rw [stringBody_alone (by simp)]
    rfl
  | case3 p q ps pair ih =>
    rw [List.length_cons, List.length_cons] at enough
    obtain ⟨fuel, rfl⟩ : ∃ k, fuel = k + 1 := ⟨fuel - 1, by omega⟩
    obtain ⟨first, second⟩ := Bool.and_eq_true_iff.mp pair
    obtain ⟨c, point, _⟩ := ofNat_pairValue first second
    have single : ∀ q ∈ ps.head?,
        (isHighSurrogate (Point.char c).value && isLowSurrogate q.value) = false := by
      simp [isHighSurrogate_char]
    rw [flatMap_escapePoint_pair pair, point, ← List.flatMap_cons, stringBody_alone single,
      ih (by omega)]
    rfl
  | case4 p q ps single ih =>
    obtain ⟨fuel, rfl⟩ : ∃ k, fuel = k + 1 := ⟨fuel - 1, by simp at enough; omega⟩
    rw [stringBody_alone (by simpa using single), ih (by simpa using enough)]
    rfl

theorem length_le_flatMap_escapePoint (ps : List Point) :
    ps.length ≤ (ps.flatMap escapePoint).length := by
  induction ps with
  | nil => exact Nat.le_refl 0
  | cons p ps ih =>
    have filled := List.length_pos_iff.mpr (escape_escapePoint p).ne_nil
    rw [List.flatMap_cons, List.length_append, List.length_cons]
    omega

end RestQuery.Json
