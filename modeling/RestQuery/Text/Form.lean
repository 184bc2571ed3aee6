import RestQuery.Text.Basic
import RestQuery.Text.Hex
import RestQuery.Text.Utf8

/-!
# Form encoding

Key-value pairs as the query of a URL: pairs separated by `&`, a key from its value by `=`, and
every byte outside a small safe set written as `%` and two digits, a space as `+`. Decoding
reads the pairs back, which is `decode?_encode`.
-/

namespace RestQuery.Text.Form

/-- Letters, digits and `_.-~` stand for themselves. -/
def isSafe (b : UInt8) : Bool :=
  let n := b.toNat
  (48 ≤ n && n ≤ 57) || (65 ≤ n && n ≤ 90) || (97 ≤ n && n ≤ 122) ||
    n == 95 || n == 46 || n == 45 || n == 126

def encodeByte (b : UInt8) : List Char :=
  if isSafe b then [Char.ofNat b.toNat]
  else if b = 32 then ['+']
  else ['%', upperHexDigit (b.toNat / 16), upperHexDigit (b.toNat % 16)]

def encodeText (s : String) : List Char := (Utf8.encode s).flatMap encodeByte

def encodePair (p : String × String) : List Char :=
  encodeText p.1 ++ '=' :: encodeText p.2

/-- The pairs in order. -/
def encode (pairs : List (String × String)) : String :=
  joinWith "&" (pairs.map fun p => String.ofList (encodePair p))

/-! ### Decoding -/

/-- The bytes that a text with `+` and percent escapes stands for. -/
def decodeBytes? : List Char → Option (List UInt8)
  | [] => some []
  | '%' :: a :: b :: rest =>
    match hexValue? a, hexValue? b, decodeBytes? rest with
    | some x, some y, some bs => some ((16 * x + y).toUInt8 :: bs)
    | _, _, _ => none
  | c :: rest =>
    if c = '%' then none
    else (decodeBytes? rest).map ((if c = '+' then [32] else Utf8.encodeChar c) ++ ·)

def decodeText? (s : List Char) : Option String := (decodeBytes? s).bind Utf8.decode?

def decodePair? (piece : List Char) : Option (String × String) :=
  match splitFirst '=' piece with
  | (key, some value) => do return (← decodeText? key, ← decodeText? value)
  | (_, none) => none

/-- The pairs that a query string carries. -/
def decode? (s : String) : Option (List (String × String)) :=
  if s = "" then some []
  else (splitChars '&' s.toList).mapM decodePair?

/-! ### Reading what was written -/

/-- The escape of a byte: one character that is no percent sign, or two digits after one. -/
def escapeReads (n : Nat) : Bool :=
  match encodeByte n.toUInt8 with
  | [c] => c != '%' && (if c = '+' then [32] else Utf8.encodeChar c) == [n.toUInt8]
  | [p, a, b] =>
    p == '%' && hexValue? a == some (n / 16) && hexValue? b == some (n % 16)
  | _ => false

theorem escapeReads_byte : ∀ n < 256, escapeReads n = true := by decide +kernel

theorem separators_notMem : ∀ n < 256,
    '&' ∉ encodeByte n.toUInt8 ∧ '=' ∉ encodeByte n.toUInt8 := by decide +kernel

theorem decodeBytes?_encodeByte (b : UInt8) (rest : List Char) :
    decodeBytes? (encodeByte b ++ rest) = (decodeBytes? rest).map (b :: ·) := by
  have h := escapeReads_byte b.toNat b.toNat_lt
  rw [escapeReads, show b.toNat.toUInt8 = b by simp] at h
  split at h
  · rename_i c hc
    simp only [Bool.and_eq_true, bne_iff_ne, beq_iff_eq] at h
    rw [hc, List.singleton_append]
    rw [decodeBytes?]
    · rw [if_neg h.1, h.2]
      rfl
    · rintro _ _ _ rfl
      exact absurd rfl h.1
  · rename_i p a d hc
    simp only [Bool.and_eq_true, beq_iff_eq] at h
    obtain ⟨⟨rfl, ha⟩, hd⟩ := h
    rw [hc]
    simp only [List.cons_append, List.nil_append, decodeBytes?, ha, hd]
    have : (16 * (b.toNat / 16) + b.toNat % 16).toUInt8 = b := by
      rw [Nat.div_add_mod]; simp
    cases decodeBytes? rest <;> simp [this]
  · exact absurd h (by simp)

theorem decodeBytes?_flatMap (bs : List UInt8) :
    decodeBytes? (bs.flatMap encodeByte) = some bs := by
  induction bs with
  | nil => rfl
  | cons b bs ih => rw [List.flatMap_cons, decodeBytes?_encodeByte, ih]; rfl

theorem decodeText?_encodeText (s : String) : decodeText? (encodeText s) = some s := by
  simp [decodeText?, encodeText, decodeBytes?_flatMap, Utf8.decode?_encode]

theorem notMem_encodeText (s : String) : '&' ∉ encodeText s ∧ '=' ∉ encodeText s := by
  have h (b : UInt8) : '&' ∉ encodeByte b ∧ '=' ∉ encodeByte b := by
    simpa using separators_notMem b.toNat b.toNat_lt
  constructor
  · intro hm
    obtain ⟨b, _, hb⟩ := List.mem_flatMap.1 hm
    exact (h b).1 hb
  · intro hm
    obtain ⟨b, _, hb⟩ := List.mem_flatMap.1 hm
    exact (h b).2 hb

theorem decodePair?_encodePair (p : String × String) : decodePair? (encodePair p) = some p := by
  simp [decodePair?, encodePair, splitFirst_append (notMem_encodeText p.1).2,
    decodeText?_encodeText]

theorem notMem_encodePair (p : String × String) : '&' ∉ encodePair p := by
  simp [encodePair, (notMem_encodeText p.1).1, (notMem_encodeText p.2).1]

theorem encodePair_ne_nil (p : String × String) : encodePair p ≠ [] := by simp [encodePair]

theorem encode_eq_empty_iff (pairs : List (String × String)) : encode pairs = "" ↔ pairs = [] := by
  constructor
  · intro h
    cases pairs with
    | nil => rfl
    | cons p ps =>
      have : (encode (p :: ps)).toList ≠ [] := by
        cases ps with
        | nil => simp [encode, joinWith_singleton, encodePair_ne_nil]
        | cons q qs => simp [encode, joinWith_cons_cons, encodePair_ne_nil]
      simp [h] at this
  · rintro rfl
    rfl

theorem mapM_decodePair? (pairs : List (String × String)) :
    (pairs.map encodePair).mapM decodePair? = some pairs := by
  induction pairs with
  | nil => rfl
  | cons p ps ih => simp [List.mapM_cons, decodePair?_encodePair, ih]

/-- The pairs come back from the query string. -/
theorem decode?_encode (pairs : List (String × String)) : decode? (encode pairs) = some pairs := by
  unfold decode?
  by_cases h : pairs = []
  · subst h
    rfl
  · rw [if_neg (fun he => h ((encode_eq_empty_iff pairs).1 he))]
    have : splitChars '&' (encode pairs).toList = pairs.map encodePair := by
      have := @splitChars_joinWith '&' (pairs.map encodePair) (by simpa using h)
        (fun piece hm => by
          obtain ⟨p, _, rfl⟩ := List.mem_map.1 hm
          exact notMem_encodePair p)
      simpa [encode, Function.comp_def] using this
    rw [this, mapM_decodePair?]

end RestQuery.Text.Form
