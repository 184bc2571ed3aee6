/-!
# Joining and splitting text

Texts are joined with a separator between neighbours and split at every occurrence of a
character. `joinWith_splitOn` says that splitting loses nothing, and `splitChars_joinWith` that joining
does not either.
-/

namespace RestQuery.Text

/-- The texts in order, with `sep` between neighbours. -/
def joinWith (sep : String) : List String → String
  | [] => ""
  | [s] => s
  | s :: t :: rest => s ++ sep ++ joinWith sep (t :: rest)

/-- The comma-separated form of a list. -/
def commaJoin (parts : List String) : String := joinWith "," parts

/-- The pieces of `s` between the occurrences of `c`; never empty. -/
def splitChars (c : Char) : List Char → List (List Char)
  | [] => [[]]
  | d :: s =>
    if d = c then [] :: splitChars c s
    else match splitChars c s with
      | [] => [[d]]
      | p :: ps => (d :: p) :: ps

def splitOn (c : Char) (s : String) : List String := (splitChars c s.toList).map String.ofList

/-- `s` split at its first `c`; the second part is `none` if there is no `c`. -/
def splitFirst (c : Char) : List Char → List Char × Option (List Char)
  | [] => ([], none)
  | d :: s =>
    if d = c then ([], some s)
    else ((d :: (splitFirst c s).1), (splitFirst c s).2)

/-- The part of `s` before its first `c`, or all of it. -/
def beforeFirst (c : Char) (s : String) : String := String.ofList (splitFirst c s.toList).1

/-- The part of `s` after its last `c`, or all of it. -/
def afterLast (c : Char) (s : String) : String :=
  String.ofList (s.toList.reverse.takeWhile (· ≠ c)).reverse

/-- `s` without the run of `c` at its end. -/
def dropTrailing (c : Char) (s : String) : String :=
  String.ofList (s.toList.reverse.dropWhile (· = c)).reverse

def contains (c : Char) (s : String) : Bool := s.toList.contains c

def endsWith (suffix s : String) : Bool := suffix.toList.isSuffixOf s.toList

/-- `n` written with at least `width` digits. -/
def padded (width n : Nat) : String :=
  let digits := toString n
  String.ofList (List.replicate (width - digits.length) '0') ++ digits

/-! ### Joining -/

theorem joinWith_nil (sep : String) : joinWith sep [] = "" := rfl

theorem joinWith_singleton (sep s : String) : joinWith sep [s] = s := rfl

theorem joinWith_cons_cons (sep s t : String) (rest : List String) :
    joinWith sep (s :: t :: rest) = s ++ sep ++ joinWith sep (t :: rest) := rfl

theorem joinWith_append (sep : String) {as bs : List String} (ha : as ≠ []) (hb : bs ≠ []) :
    joinWith sep (as ++ bs) = joinWith sep as ++ sep ++ joinWith sep bs := by
  induction as with
  | nil => exact absurd rfl ha
  | cons a as ih =>
    cases as with
    | nil =>
      cases bs with
      | nil => exact absurd rfl hb
      | cons b bs => rfl
    | cons a' as =>
      have := ih (by simp)
      simp only [List.cons_append, joinWith_cons_cons] at this ⊢
      rw [this]
      simp [String.append_assoc]

theorem commaJoin_concat {parts : List String} (h : parts ≠ []) (s : String) :
    commaJoin (parts ++ [s]) = commaJoin parts ++ "," ++ s :=
  joinWith_append "," h (by simp)

theorem toList_commaJoin_cons_cons (s t : String) (rest : List String) :
    (commaJoin (s :: t :: rest)).toList = s.toList ++ ',' :: (commaJoin (t :: rest)).toList := by
  simp [commaJoin, joinWith_cons_cons]

theorem commaJoin_cons_ne_empty {s : String} (h : s ≠ "") (rest : List String) :
    commaJoin (s :: rest) ≠ "" := by
  cases rest with
  | nil => simpa [commaJoin, joinWith_singleton] using h
  | cons t rest => simp [commaJoin, joinWith_cons_cons, h]

/-! ### Splitting -/

/-- A text is split at the last occurrence of a character in one way. -/
theorem split_at_last {c : Char} {s t u v : List Char} (hu : c ∉ u) (hv : c ∉ v)
    (h : s ++ c :: u = t ++ c :: v) : s = t ∧ u = v := by
  rcases List.append_eq_append_iff.1 h with ⟨a, rfl, rest⟩ | ⟨a, rfl, rest⟩
  · cases a with
    | nil => exact ⟨(List.append_nil s).symm, (List.cons.inj rest).2⟩
    | cons d a =>
      obtain ⟨_, rfl⟩ := List.cons.inj rest
      exact absurd (List.mem_append_right a List.mem_cons_self) hu
  · cases a with
    | nil => exact ⟨List.append_nil t, (List.cons.inj rest).2.symm⟩
    | cons d a =>
      obtain ⟨_, rfl⟩ := List.cons.inj rest
      exact absurd (List.mem_append_right a List.mem_cons_self) hv

theorem splitChars_ne_nil (c : Char) (s : List Char) : splitChars c s ≠ [] := by
  induction s with
  | nil => simp [splitChars]
  | cons d s ih =>
    simp only [splitChars]
    split
    · simp
    · split <;> simp

theorem splitChars_of_notMem {c : Char} {s : List Char} (h : c ∉ s) : splitChars c s = [s] := by
  induction s with
  | nil => rfl
  | cons d s ih =>
    have hd : d ≠ c := fun e => h (e ▸ List.mem_cons_self)
    simp [splitChars, hd, ih (fun m => h (List.mem_cons_of_mem _ m))]

theorem notMem_of_mem_splitChars {c : Char} {s p : List Char} (h : p ∈ splitChars c s) :
    c ∉ p := by
  induction s generalizing p with
  | nil => simp_all [splitChars]
  | cons d s ih =>
    simp only [splitChars] at h
    split at h
    · rcases List.mem_cons.1 h with rfl | h
      · simp
      · exact ih h
    · rename_i hd
      cases hs : splitChars c s with
      | nil => exact absurd hs (splitChars_ne_nil c s)
      | cons q qs =>
        rw [hs] at h
        rcases List.mem_cons.1 h with rfl | h
        · have := ih (p := q) (by simp [hs])
          simp only [List.mem_cons, not_or]
          exact ⟨fun e => hd e.symm, this⟩
        · exact ih (by simp [hs, h])

theorem joinWith_splitChars (c : Char) (s : List Char) :
    joinWith (String.singleton c) ((splitChars c s).map String.ofList) = String.ofList s := by
  induction s with
  | nil => rfl
  | cons d s ih =>
    simp only [splitChars]
    cases hs : splitChars c s with
    | nil => exact absurd hs (splitChars_ne_nil c s)
    | cons q qs =>
      rw [hs] at ih
      by_cases hd : d = c
      · subst hd
        simp only [List.map_cons, joinWith_cons_cons, reduceIte] at ih ⊢
        rw [ih]
        apply String.ext
        simp
      · simp only [hd, if_false]
        cases qs with
        | nil =>
          simp only [List.map_cons, List.map_nil, joinWith_singleton] at ih ⊢
          have : q = s := by simpa using congrArg String.toList ih
          rw [this]
        | cons r rs =>
          simp only [List.map_cons, joinWith_cons_cons] at ih ⊢
          have := congrArg String.toList ih
          apply String.ext
          simp only [String.toList_append, String.toList_ofList, List.cons_append] at this ⊢
          rw [this]

theorem joinWith_splitOn (c : Char) (s : String) :
    joinWith (String.singleton c) (splitOn c s) = s := by
  rw [splitOn, joinWith_splitChars, String.ofList_toList]

theorem splitFirst_append {c : Char} {a : List Char} (h : c ∉ a) (b : List Char) :
    splitFirst c (a ++ c :: b) = (a, some b) := by
  induction a with
  | nil => simp [splitFirst]
  | cons d a ih =>
    simp only [List.mem_cons, not_or] at h
    simp [splitFirst, Ne.symm h.1, ih h.2]

theorem splitFirst_of_notMem {c : Char} {s : List Char} (h : c ∉ s) : splitFirst c s = (s, none) := by
  induction s with
  | nil => rfl
  | cons d s ih =>
    simp only [List.mem_cons, not_or] at h
    simp [splitFirst, Ne.symm h.1, ih h.2]

theorem splitChars_append {c : Char} {a : List Char} (h : c ∉ a) (b : List Char) :
    splitChars c (a ++ c :: b) = a :: splitChars c b := by
  induction a with
  | nil => simp [splitChars]
  | cons d a ih =>
    simp only [List.mem_cons, not_or] at h
    simp [splitChars, Ne.symm h.1, ih h.2]

/-- Pieces without the separator come back from their join. -/
theorem splitChars_joinWith {c : Char} {pieces : List (List Char)} (hp : pieces ≠ [])
    (h : ∀ p ∈ pieces, c ∉ p) :
    splitChars c (joinWith (String.singleton c) (pieces.map String.ofList)).toList = pieces := by
  induction pieces with
  | nil => exact absurd rfl hp
  | cons p ps ih =>
    cases ps with
    | nil => simp [joinWith_singleton, splitChars_of_notMem (h p List.mem_cons_self)]
    | cons q qs =>
      have := ih (by simp) (fun r hr => h r (List.mem_cons_of_mem _ hr))
      simp only [List.map_cons] at this
      simp only [List.map_cons, joinWith_cons_cons, String.toList_append, String.toList_ofList,
        String.toList_singleton, List.append_assoc, List.singleton_append]
      rw [splitChars_append (h p List.mem_cons_self), this]

end RestQuery.Text
