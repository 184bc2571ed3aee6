import Mathlib.Data.List.Forall2
import Mathlib.Data.List.TakeWhile
import RestQuery.Proofs.JsonTexts

/-!
# Written values are read back

The text of a value is read as that value in front of any input that does not go on with a word or a
number. Each kind of value is read back given that its parts are.
-/

namespace RestQuery.Json

open Text

/-- The input does not go on with a word or a number. -/
def Ends (rest : List Point) : Prop := ∀ p ∈ rest.head?, p.holds isAtomic = false

/-- The first character is neither white space nor a closing bracket. -/
def Starts (s : List Char) : Prop := ∃ c more, s = c :: more ∧ isSpace c = false ∧ c ≠ ']' ∧ c ≠ '}'

theorem Starts.append {s : List Char} (starts : Starts s) (t : List Char) : Starts (s ++ t) := by
  obtain ⟨c, more, rfl, visible, open_⟩ := starts
  exact ⟨c, more ++ t, rfl, visible, open_⟩

theorem skipSpace_cons {c : Char} (visible : isSpace c = false) (s : List Point) :
    skipSpace (.char c :: s) = .char c :: s := by
  rw [skipSpace, List.dropWhile_cons_of_neg]
  simpa [Point.holds] using visible

theorem Starts.skipSpace_eq {s : List Char} (starts : Starts s) (rest : List Point) :
    skipSpace (pointsOf s ++ rest) = pointsOf s ++ rest := by
  obtain ⟨c, more, rfl, visible, _⟩ := starts
  exact skipSpace_cons visible _

/-- A text that is read as a value. As many steps as the text has characters are enough. -/
structure Written (t : String) (v : Value) : Prop where
  graphic : ∀ c ∈ t.toList, Graphic c
  starts : Starts t.toList
  read : ∀ fuel rest, t.toList.length ≤ fuel → Ends rest →
    readValue fuel (pointsOf t.toList ++ rest) = .ok (v, rest)

/-! ### Words and numbers -/

theorem graphic_of_isAtomic {c : Char} (atomic : isAtomic c = true) : Graphic c := by
  have between (n m : Char) (range : n.val ≤ c.val ∧ c.val ≤ m.val) (low : 32 ≤ n.toNat)
      (high : m.toNat < 127) : Graphic c :=
    ⟨Nat.le_trans low range.1, Nat.lt_of_le_of_lt range.2 high⟩
  have kinds : (((((c.isUpper || c.isLower) || c.isDigit) || decide (c = '+')) ||
      decide (c = '-')) || decide (c = '.')) = true := atomic
  simp only [Bool.or_eq_true, decide_eq_true_eq] at kinds
  rcases kinds with ((((upper | lower) | digit) | rfl) | rfl) | rfl
  · exact between 'A' 'Z' (of_decide_eq_true upper) (by decide) (by decide)
  · obtain ⟨above, below⟩ := Bool.and_eq_true_iff.mp lower
    exact between 'a' 'z' ⟨of_decide_eq_true above, of_decide_eq_true below⟩ (by decide) (by decide)
  · exact between '0' '9' (Char.isDigit_iff_toNat.mp digit) (by decide) (by decide)
  all_goals exact ⟨by decide, by decide⟩

theorem holds_pointsOf {p : Char → Bool} {t : List Char} (all : ∀ c ∈ t, p c = true) :
    ∀ q ∈ pointsOf t, q.holds p = true := by
  simpa [pointsOf, Point.holds] using all

theorem readAtom_append {t : List Char} {v : Value} (atomic : ∀ c ∈ t, isAtomic c = true)
    (found : atom t = .ok (v, [])) {rest : List Point} (ends : Ends rest) :
    readAtom (pointsOf t ++ rest) = .ok (v, rest) := by
  have all := holds_pointsOf atomic
  have front : (pointsOf t ++ rest).takeWhile (·.holds isAtomic) = pointsOf t := by
    rw [List.takeWhile_append_of_pos all]
    cases rest with
    | nil => simp
    | cons q rest => simp [ends q rfl]
  have back : (pointsOf t ++ rest).dropWhile (·.holds isAtomic) = rest := by
    rw [List.dropWhile_append_of_pos all]
    cases rest with
    | nil => simp
    | cons q rest => simp [ends q rfl]
  have chars : (pointsOf t).filterMap Point.char? = t := by
    simp [pointsOf, List.filterMap_map, Function.comp_def, Point.char?]
  rw [readAtom, front, back, chars, found]
  rfl

theorem readValue_eq_readAtom {c : Char} (atomic : isAtomic c = true) (fuel : Nat)
    (s : List Point) : readValue (fuel + 1) (.char c :: s) = readAtom (.char c :: s) := by
  have quote : c ≠ '"' := by rintro rfl; revert atomic; decide
  have bracket : c ≠ '[' := by rintro rfl; revert atomic; decide
  have brace : c ≠ '{' := by rintro rfl; revert atomic; decide
  simp [readValue, quote, bracket, brace]

theorem written_of_atom {t : String} {v : Value} (filled : t.toList ≠ [])
    (atomic : ∀ c ∈ t.toList, isAtomic c = true) (found : atom t.toList = .ok (v, [])) :
    Written t v := by
  obtain ⟨c, s, chars⟩ := List.exists_cons_of_ne_nil filled
  have first : isAtomic c = true := atomic c (chars ▸ List.mem_cons_self)
  refine ⟨fun d present => graphic_of_isAtomic (atomic d present), ⟨c, s, chars, ?_, ?_, ?_⟩, ?_⟩
  · cases space : isSpace c with
    | false => rfl
    | true =>
      simp only [isSpace, Bool.or_eq_true, decide_eq_true_eq] at space
      rcases space with ((rfl | rfl) | rfl) | rfl <;> revert first <;> decide
  · rintro rfl
    revert first
    decide
  · rintro rfl
    revert first
    decide
  · intro fuel rest enough ends
    rw [chars] at atomic found enough ⊢
    obtain ⟨fuel, rfl⟩ := Nat.exists_eq_add_of_lt enough
    rw [← readAtom_append atomic found ends, Nat.add_comm, Nat.add_comm]
    exact readValue_eq_readAtom first _ _

theorem written_null : Written "null" .null :=
  written_of_atom (by decide) (List.all_eq_true.mp (by decide)) rfl

theorem written_bool (b : Bool) : Written (bool b) (.bool b) := by
  cases b with
  | true => exact written_of_atom (by decide) (List.all_eq_true.mp (by decide)) rfl
  | false => exact written_of_atom (by decide) (List.all_eq_true.mp (by decide)) rfl

/-! ### Whole numbers -/

theorem isAsciiDigit_of_isDigit {c : Char} (digit : c.isDigit = true) : isAsciiDigit c = true := by
  simp only [Char.isDigit, Bool.and_eq_true, decide_eq_true_eq, ge_iff_le] at digit
  rw [isAsciiDigit, Bool.and_eq_true, decide_eq_true_eq, decide_eq_true_eq]
  exact digit

theorem isAsciiDigit_of_mem_toDigits {m : Nat} :
    ∀ c ∈ Nat.toDigits 10 m, isAsciiDigit c = true := fun _ present =>
  isAsciiDigit_of_isDigit (Nat.isDigit_of_mem_toDigits (by decide) (by decide) present)

theorem isAtomic_of_mem_toDigits {m : Nat} : ∀ c ∈ Nat.toDigits 10 m, isAtomic c = true := by
  intro c present
  have digit := Nat.isDigit_of_mem_toDigits (by decide) (by decide) present
  simp [isAtomic, Char.isAlphanum, digit]

/-- Only zero is written with a zero at the front. -/
theorem toDigits_head_ne_zero {m : Nat} (positive : 0 < m) :
    ∃ d ds, Nat.toDigits 10 m = d :: ds ∧ d ≠ '0' := by
  induction m using Nat.base_induction 10 (by decide) with
  | single m small =>
    refine ⟨m.digitChar, [], Nat.toDigits_of_lt_base small, ?_⟩
    have nonzero : ∀ k < 10, 0 < k → k.digitChar ≠ '0' := by decide
    exact nonzero m small positive
  | digit m k small high ih =>
    obtain ⟨d, ds, digits, nonzero⟩ := ih high
    refine ⟨d, ds ++ Nat.toDigits 10 k, ?_, nonzero⟩
    rw [← Nat.toDigits_append_toDigits (by decide) high small, digits, List.cons_append]

theorem digitsValue_toDigits (m : Nat) : Number.digitsValue (Nat.toDigits 10 m) = m := by
  have same : Number.digitsValue (Nat.toDigits 10 m) =
      Nat.ofDigitChars 10 (Nat.toDigits 10 m) 0 := by
    simp only [Number.digitsValue, Nat.ofDigitChars_eq_foldl, Nat.mul_comm 10]
    rfl
  rw [same, Nat.ofDigitChars_ten_toDigits]

theorem wholePart_toDigits (m : Nat) :
    wholePart (Nat.toDigits 10 m) = (Nat.toDigits 10 m, []) := by
  rcases Nat.eq_zero_or_pos m with rfl | positive
  · rfl
  · obtain ⟨d, ds, digits, nonzero⟩ := toDigits_head_ne_zero positive
    have all := isAsciiDigit_of_mem_toDigits (m := m)
    rw [digits] at all ⊢
    rw [wholePart]
    · simp [List.takeWhile_eq_self_iff.mpr all, List.dropWhile_eq_nil_iff.mpr all]
    · rintro s ⟨rfl, _⟩
      exact nonzero rfl

theorem readNumber_toDigits (negative : Bool) {m : Nat}
    (short : (Nat.toDigits 10 m).length ≤ Number.digitLimit) :
    readNumber negative (Nat.toDigits 10 m) = .ok (.int (Number.signed negative m), []) := by
  have filled : (Nat.toDigits 10 m).isEmpty = false := by simp
  simp [readNumber, wholePart_toDigits, fractionPart, exponentPart, filled, short,
    digitsValue_toDigits]

/-- A digit starts no word. -/
theorem atom_of_digit {c : Char} (digit : c.isDigit = true) (s : List Char) :
    atom (c :: s) = readNumber false (c :: s) := by
  have differ (d : Char) (letter : d.isDigit = false) : d ≠ c := by
    rintro rfl
    rw [digit] at letter
    cases letter
  have no_word : (words.findSome? fun w => (skipWord? w.1 (c :: s)).map (w.2, ·)) = none := by
    simp [words, skipWord?, differ]
  simp [atom, no_word, (differ '-' rfl).symm]

theorem atom_of_minus_digit {c : Char} (digit : c.isDigit = true) (s : List Char) :
    atom ('-' :: c :: s) = readNumber true (c :: s) := by
  have differ : 'I' ≠ c := by
    rintro rfl
    revert digit
    decide
  have no_word :
      (words.findSome? fun w => (skipWord? w.1 ('-' :: c :: s)).map (w.2, ·)) = none := by
    simp [words, skipWord?, differ]
  rw [atom, no_word]

/-- The first digit of a number. -/
theorem toDigits_eq_cons (m : Nat) :
    ∃ d ds, Nat.toDigits 10 m = d :: ds ∧ d.isDigit = true := by
  obtain ⟨d, ds, digits⟩ := List.exists_cons_of_ne_nil (Nat.toDigits_ne_nil (n := m) (b := 10))
  exact ⟨d, ds, digits,
    Nat.isDigit_of_mem_toDigits (by decide) (by decide) (digits ▸ List.mem_cons_self)⟩

theorem written_toDigits {t : String} {m : Nat} (chars : t.toList = Nat.toDigits 10 m)
    (short : (Nat.toDigits 10 m).length ≤ Number.digitLimit) : Written t (.int m) := by
  obtain ⟨d, ds, digits, digit⟩ := toDigits_eq_cons m
  refine written_of_atom (chars ▸ Nat.toDigits_ne_nil) (chars ▸ isAtomic_of_mem_toDigits) ?_
  rw [chars, digits, atom_of_digit digit, ← digits, readNumber_toDigits false short]
  rfl

theorem written_minus_toDigits {t : String} {m : Nat} (chars : t.toList = '-' :: Nat.toDigits 10 m)
    (short : (Nat.toDigits 10 m).length ≤ Number.digitLimit) : Written t (.int (-m)) := by
  obtain ⟨d, ds, digits, digit⟩ := toDigits_eq_cons m
  refine written_of_atom (chars ▸ List.cons_ne_nil _ _) ?_ ?_
  · rw [chars]
    exact List.forall_mem_cons.mpr ⟨by decide, isAtomic_of_mem_toDigits⟩
  · rw [chars, digits, atom_of_minus_digit digit, ← digits, readNumber_toDigits true short]
    rfl

/-- A whole number within the limit is read back. -/
theorem written_int {n : Int} {t : String} (shown : Value.digitsOf n = .ok t) :
    Written t (.int n) := by
  unfold Value.digitsOf at shown
  split at shown
  · next short =>
    rw [Nat.toString_eq_repr, ← String.length_toList, Nat.toList_repr] at short
    cases shown
    cases n with
    | ofNat m => exact written_toDigits Nat.toList_repr short
    | negSucc m =>
      have chars : (toString (Int.negSucc m)).toList = '-' :: Nat.toDigits 10 (m + 1) := by
        rw [Int.toString_eq_repr, Int.repr, String.toList_append, Nat.toList_repr]
        rfl
      exact written_minus_toDigits chars short
  · cases shown

/-! ### Texts -/

/-- A text between quotes, which is read as its points with the pairs joined. -/
def Quoted (t : String) (v : Value) : Prop :=
  ∃ ps : List Point, t = points ps ∧ .ofPoints (joined ps) = v

theorem toList_points (ps : List Point) :
    (points ps).toList = '"' :: (ps.flatMap escapePoint ++ ['"']) := by
  simp [points]

theorem graphic_points (ps : List Point) : ∀ c ∈ (points ps).toList, Graphic c := by
  have quote : Graphic '"' := ⟨by decide, by decide⟩
  intro c present
  simp only [toList_points, List.mem_cons, List.mem_append, List.mem_flatMap, List.not_mem_nil,
    or_false] at present
  rcases present with rfl | ⟨p, _, present⟩ | rfl
  · exact quote
  · exact (escape_escapePoint p).graphic c present
  · exact quote

theorem Quoted.readString_eq {t : String} {v : Value} (quoted : Quoted t v) :
    ∃ s, t.toList = '"' :: s ∧ ∀ fuel rest, s.length ≤ fuel →
      readString fuel (pointsOf s ++ rest) = .ok (v, rest) := by
  obtain ⟨ps, rfl, rfl⟩ := quoted
  refine ⟨_, toList_points ps, fun fuel rest enough => ?_⟩
  rw [List.length_append, List.length_singleton] at enough
  obtain ⟨fuel, rfl⟩ : ∃ k, fuel = k + 1 := ⟨fuel - 1, by omega⟩
  have count := length_le_flatMap_escapePoint ps
  have read := stringBody_points ps (Nat.le_trans count (Nat.le_of_succ_le_succ enough)) rest
  rw [readString, pointsOf, List.map_append, List.append_assoc]
  exact bind_ok.mpr ⟨_, read, rfl⟩

theorem Quoted.written {t : String} {v : Value} (quoted : Quoted t v) : Written t v := by
  obtain ⟨s, chars, read⟩ := quoted.readString_eq
  obtain ⟨ps, rfl, _⟩ := quoted
  refine ⟨graphic_points ps, ⟨_, s, chars, by decide, by decide, by decide⟩, ?_⟩
  intro fuel rest enough _
  rw [chars] at enough ⊢
  obtain ⟨fuel, rfl⟩ := Nat.exists_eq_add_of_lt enough
  simp only [List.map_cons, List.cons_append, readValue]
  exact read _ rest (Nat.le_add_right _ _)

theorem quoted_points (ps : List Point) : Quoted (points ps) (.ofPoints (joined ps)) :=
  ⟨ps, rfl, rfl⟩

theorem quoted_string (s : String) : Quoted (string s) (.text s) := by
  have quoted := quoted_points (pointsOf s.toList)
  rwa [points_map_char, joined_pointsOf, Value.ofPoints_map_char, String.ofList_toList] at quoted

/-! ### Arrays -/

theorem ends_cons {c : Char} (other : isAtomic c = false) (rest : List Point) :
    Ends (.char c :: rest) := by
  rintro _ ⟨⟩
  exact other

theorem starts_commaJoin {t : String} (starts : Starts t.toList) (ts : List String) :
    Starts (commaJoin (t :: ts)).toList := by
  cases ts with
  | nil => exact starts
  | cons u ts =>
    rw [toList_commaJoin_cons_cons]
    exact starts.append _

section Items

variable {fuel : Nat} {s rest last : List Point} {v : Value} {vs : List Value}

theorem readItems_last (read : readValue fuel s = .ok (v, .char ']' :: rest)) :
    readItems (fuel + 1) s = .ok ([v], rest) := by
  rw [readItems]
  exact bind_ok.mpr ⟨_, read, rfl⟩

theorem readItems_comma (read : readValue fuel s = .ok (v, .char ',' :: rest))
    (later : readItems fuel (skipSpace rest) = .ok (vs, last)) :
    readItems (fuel + 1) s = .ok (v :: vs, last) := by
  rw [readItems]
  exact bind_ok.mpr ⟨_, read, bind_ok.mpr ⟨_, later, rfl⟩⟩

theorem readValue_items (other : ∀ t, skipSpace s ≠ .char ']' :: t)
    (items : readItems fuel (skipSpace s) = .ok (vs, rest)) :
    readValue (fuel + 1) (.char '[' :: s) = .ok (.list vs, rest) := by
  rw [readValue]
  split
  · next t found => exact absurd found (other t)
  · exact bind_ok.mpr ⟨_, items, rfl⟩

end Items

/-- Items with commas between them are read one by one, each in front of a comma or the bracket. -/
theorem readItems_eq {ts : List String} {vs : List Value} (written : List.Forall₂ Written ts vs)
    (filled : ts ≠ []) {fuel : Nat} (enough : (commaJoin ts).toList.length < fuel)
    (rest : List Point) :
    readItems fuel (pointsOf (commaJoin ts).toList ++ .char ']' :: rest) = .ok (vs, rest) := by
  induction written generalizing fuel with
  | nil => exact absurd rfl filled
  | @cons t v ts vs first later ih =>
    obtain ⟨fuel, rfl⟩ : ∃ k, fuel = k + 1 := ⟨fuel - 1, by omega⟩
    cases later with
    | nil =>
      have short : t.toList.length ≤ fuel := Nat.le_of_lt_succ enough
      exact readItems_last (first.read fuel _ short (ends_cons (by decide) rest))
    | @cons u w ts vs second later =>
      rw [toList_commaJoin_cons_cons, List.length_append, List.length_cons] at enough
      rw [toList_commaJoin_cons_cons, pointsOf, List.map_append, List.append_assoc, List.map_cons,
        List.cons_append]
      refine readItems_comma (first.read fuel _ (by omega) (ends_cons (by decide) _)) ?_
      rw [(starts_commaJoin second.starts ts).skipSpace_eq]
      exact ih (List.cons_ne_nil _ _) (by omega)

/-- What is between brackets, up to the closing one. -/
theorem pointsOf_enclosed {t : String} {s : List Char} {first last : Char}
    (chars : t.toList = first :: (s ++ [last])) (rest : List Point) :
    pointsOf t.toList ++ rest = .char first :: (pointsOf s ++ .char last :: rest) := by
  simp [chars, pointsOf]

theorem graphic_enclosed {t : String} {s : List Char} {first last : Char}
    (chars : t.toList = first :: (s ++ [last])) (opening : Graphic first) (closing : Graphic last)
    (inside : ∀ c ∈ s, Graphic c) : ∀ c ∈ t.toList, Graphic c := by
  rw [chars]
  refine List.forall_mem_cons.mpr ⟨opening, List.forall_mem_append.mpr ⟨inside, ?_⟩⟩
  exact List.forall_mem_singleton.mpr closing

theorem graphic_commaJoin {ts : List String} (graphic : ∀ t ∈ ts, ∀ c ∈ t.toList, Graphic c) :
    ∀ c ∈ (commaJoin ts).toList, Graphic c := by
  induction ts with
  | nil => simp [commaJoin, joinWith_nil]
  | cons t ts ih =>
    obtain ⟨first, later⟩ := List.forall_mem_cons.mp graphic
    cases ts with
    | nil => exact first
    | cons u ts =>
      rw [toList_commaJoin_cons_cons]
      refine List.forall_mem_append.mpr ⟨first, List.forall_mem_cons.mpr ⟨?_, ih later⟩⟩
      exact ⟨by decide, by decide⟩

theorem toList_array (ts : List String) :
    (array ts).toList = '[' :: ((commaJoin ts).toList ++ [']']) := by
  simp [array]

theorem written_array {ts : List String} {vs : List Value} (written : List.Forall₂ Written ts vs) :
    Written (array ts) (.list vs) := by
  refine ⟨?_, ⟨'[', _, toList_array ts, by decide, by decide, by decide⟩, ?_⟩
  · have inside : ∀ t ∈ ts, ∀ c ∈ t.toList, Graphic c :=
      ((List.forall₂_and_left _ _).mp (written.imp fun t v each => ⟨each.graphic, each⟩)).1
    exact graphic_enclosed (toList_array ts) ⟨by decide, by decide⟩ ⟨by decide, by decide⟩
      (graphic_commaJoin inside)
  · intro fuel rest enough _
    rw [pointsOf_enclosed (toList_array ts)]
    rw [toList_array, List.length_cons, List.length_append, List.length_singleton] at enough
    obtain ⟨fuel, rfl⟩ : ∃ k, fuel = k + 1 := ⟨fuel - 1, by omega⟩
    cases written with
    | nil => rfl
    | @cons t v ts vs first later =>
      have starts := starts_commaJoin first.starts ts
      refine readValue_items ?_ ?_
      · rw [starts.skipSpace_eq]
        obtain ⟨c, more, chars, _, no_bracket, _⟩ := starts
        simp [chars, no_bracket]
      · rw [starts.skipSpace_eq]
        exact readItems_eq (.cons first later) (List.cons_ne_nil _ _) (by omega) rest

/-! ### Objects -/

/-- The text of a member is that of its name, a colon and that of its value. -/
def MemberWritten (m : String × String) (e : Value × Value) : Prop :=
  Quoted m.1 e.1 ∧ Written m.2 e.2

abbrev memberText (m : String × String) : String := m.1 ++ ":" ++ m.2

theorem toList_memberText (m : String × String) :
    (memberText m).toList = m.1.toList ++ ':' :: m.2.toList := by
  simp [memberText]

theorem toList_braces (ms : List (String × String)) :
    (braces ms).toList = '{' :: ((commaJoin (ms.map memberText)).toList ++ ['}']) := by
  simp [braces]

section Members

variable {fuel : Nat} {s after rest last : List Point} {k v : Value} {es : List (Value × Value)}

theorem readMembers_last (named : readString fuel s = .ok (k, .char ':' :: after))
    (read : readValue fuel (skipSpace after) = .ok (v, .char '}' :: rest)) :
    readMembers (fuel + 1) (.char '"' :: s) = .ok ([(k, v)], rest) := by
  rw [readMembers]
  exact bind_ok.mpr ⟨_, named, bind_ok.mpr ⟨_, read, rfl⟩⟩

theorem readMembers_comma (named : readString fuel s = .ok (k, .char ':' :: after))
    (read : readValue fuel (skipSpace after) = .ok (v, .char ',' :: rest))
    (later : readMembers fuel (skipSpace rest) = .ok (es, last)) :
    readMembers (fuel + 1) (.char '"' :: s) = .ok ((k, v) :: es, last) := by
  rw [readMembers]
  exact bind_ok.mpr ⟨_, named, bind_ok.mpr ⟨_, read, bind_ok.mpr ⟨_, later, rfl⟩⟩⟩

theorem readValue_members (other : ∀ t, skipSpace s ≠ .char '}' :: t)
    (members : readMembers fuel (skipSpace s) = .ok (es, rest)) :
    readValue (fuel + 1) (.char '{' :: s) = .ok (.map (Value.mapOf es), rest) := by
  rw [readValue]
  split
  · next t found => exact absurd found (other t)
  · exact bind_ok.mpr ⟨_, members, rfl⟩

end Members

namespace MemberWritten

variable {m : String × String} {e : Value × Value}

theorem starts (written : MemberWritten m e) : Starts (memberText m).toList := by
  obtain ⟨s, chars, _⟩ := written.1.readString_eq
  rw [toList_memberText, chars]
  exact ⟨_, _, rfl, by decide, by decide, by decide⟩

theorem graphic (written : MemberWritten m e) : ∀ c ∈ (memberText m).toList, Graphic c := by
  rw [toList_memberText]
  refine List.forall_mem_append.mpr ⟨written.1.written.graphic, ?_⟩
  exact List.forall_mem_cons.mpr ⟨⟨by decide, by decide⟩, written.2.graphic⟩

/-- The name is read up to the colon and the value up to what follows the member. -/
theorem read (written : MemberWritten m e) {fuel : Nat} {rest : List Point}
    (enough : (memberText m).toList.length ≤ fuel) (ends : Ends rest) :
    ∃ s after, pointsOf (memberText m).toList ++ rest = .char '"' :: s ∧
      readString fuel s = .ok (e.1, .char ':' :: after) ∧
      readValue fuel (skipSpace after) = .ok (e.2, rest) := by
  obtain ⟨s, chars, named⟩ := written.1.readString_eq
  rw [toList_memberText, chars, List.length_append, List.length_cons, List.length_cons] at enough
  refine ⟨_, pointsOf m.2.toList ++ rest, ?_, named fuel _ (by omega), ?_⟩
  · rw [toList_memberText, chars]
    simp [pointsOf]
  · rw [written.2.starts.skipSpace_eq]
    exact written.2.read fuel rest (by omega) ends

end MemberWritten

theorem readMembers_eq {ms : List (String × String)} {es : List (Value × Value)}
    (written : List.Forall₂ MemberWritten ms es) (filled : ms ≠ []) {fuel : Nat}
    (enough : (commaJoin (ms.map memberText)).toList.length < fuel) (rest : List Point) :
    readMembers fuel (pointsOf (commaJoin (ms.map memberText)).toList ++ .char '}' :: rest) =
      .ok (es, rest) := by
  induction written generalizing fuel with
  | nil => exact absurd rfl filled
  | @cons m e ms es first later ih =>
    obtain ⟨fuel, rfl⟩ : ∃ k, fuel = k + 1 := ⟨fuel - 1, by omega⟩
    cases later with
    | nil =>
      have short : (memberText m).toList.length ≤ fuel := Nat.le_of_lt_succ enough
      have ends : Ends (.char '}' :: rest) := ends_cons (by decide) rest
      obtain ⟨s, after, text, named, read⟩ := first.read short ends
      rw [List.map_cons, List.map_nil, commaJoin, joinWith_singleton, text]
      exact readMembers_last named read
    | @cons m' e' ms es second later =>
      simp only [List.map_cons] at enough ih ⊢
      rw [toList_commaJoin_cons_cons, List.length_append, List.length_cons] at enough
      rw [toList_commaJoin_cons_cons, pointsOf, List.map_append, List.append_assoc, List.map_cons,
        List.cons_append]
      have short : (memberText m).toList.length ≤ fuel := by omega
      have ends (rest : List Point) : Ends (.char ',' :: rest) := ends_cons (by decide) rest
      obtain ⟨s, after, text, named, read⟩ := first.read short (ends _)
      rw [text]
      refine readMembers_comma named read ?_
      rw [(starts_commaJoin second.starts _).skipSpace_eq]
      exact ih (List.cons_ne_nil _ _) (by omega)

theorem written_braces {ms : List (String × String)} {es : List (Value × Value)}
    (written : List.Forall₂ MemberWritten ms es) :
    Written (braces ms) (.map (Value.mapOf es)) := by
  refine ⟨?_, ⟨'{', _, toList_braces ms, by decide, by decide, by decide⟩, ?_⟩
  · have inside : ∀ t ∈ ms.map memberText, ∀ c ∈ t.toList, Graphic c :=
      List.forall_mem_map.mpr
        ((List.forall₂_and_left _ _).mp (written.imp fun m e each => ⟨each.graphic, each⟩)).1
    exact graphic_enclosed (toList_braces ms) ⟨by decide, by decide⟩ ⟨by decide, by decide⟩
      (graphic_commaJoin inside)
  · intro fuel rest enough _
    rw [pointsOf_enclosed (toList_braces ms)]
    rw [toList_braces, List.length_cons, List.length_append, List.length_singleton] at enough
    obtain ⟨fuel, rfl⟩ : ∃ k, fuel = k + 1 := ⟨fuel - 1, by omega⟩
    cases written with
    | nil => rfl
    | @cons m e ms es first later =>
      have starts := starts_commaJoin first.starts (ms.map memberText)
      refine readValue_members ?_ ?_
      · rw [List.map_cons, starts.skipSpace_eq]
        obtain ⟨c, more, chars, _, _, no_brace⟩ := starts
        simp [chars, no_brace]
      · rw [List.map_cons, starts.skipSpace_eq]
        exact readMembers_eq (.cons first later) (List.cons_ne_nil _ _) (by omega) rest

theorem insertEntry_of_new {k v : Value} {es : List (Value × Value)}
    (new : ∀ e ∈ es, e.1.finds k = false) : Value.insertEntry k v es = es ++ [(k, v)] := by
  induction es with
  | nil => rfl
  | cons e es ih =>
    obtain ⟨first, later⟩ := List.forall_mem_cons.mp new
    rw [Value.insertEntry, first, ih later]
    rfl

/-- Keys that do not find each other all keep their places in a map. -/
theorem mapOf_eq_self {es : List (Value × Value)}
    (distinct : es.Pairwise fun e e' => e.1.finds e'.1 = false) : Value.mapOf es = es := by
  have grow (new old : List (Value × Value))
      (distinct : (old ++ new).Pairwise fun e e' => e.1.finds e'.1 = false) :
      new.foldl (fun es e => Value.insertEntry e.1 e.2 es) old = old ++ new := by
    induction new generalizing old with
    | nil => simp
    | cons e new ih =>
      have unknown : ∀ e' ∈ old, e'.1.finds e.1 = false := fun e' present =>
        (List.pairwise_append.mp distinct).2.2 e' present e List.mem_cons_self
      rw [List.append_cons] at distinct ⊢
      rw [List.foldl_cons, insertEntry_of_new unknown, ih _ distinct]
  exact grow es [] distinct

end RestQuery.Json
