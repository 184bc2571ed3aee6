import Mathlib.Data.List.Induction
import Mathlib.Data.List.TakeWhile
import RestQuery.Proofs.RunFrame
import RestQuery.Response.Basic

/-!
# What the headers of a response say

A response sends headers in any letter case, and of those that are alike the last one counts. Two of
them are read: the media type, which may declare JSON, and the range of the rows, which may end in
their total. A total made of digit signs passes for a number even if it is none: `parseCount_fails`.
-/

namespace RestQuery

open Text

namespace Headers

/-- What some entries send under a name: the last text whose name is that, letter case aside. -/
def Sends (entries : List (String × String)) (name text : String) : Prop :=
  ∃ before sent after, entries = before ++ (sent, text) :: after ∧ lower sent = name ∧
    ∀ e ∈ after, lower e.1 ≠ name

variable {entries : List (String × String)} {name text : String}

theorem sends_concat {e : String × String} :
    Sends (entries ++ [e]) name text ↔
      lower e.1 = name ∧ text = e.2 ∨ lower e.1 ≠ name ∧ Sends entries name text := by
  constructor
  · rintro ⟨before, sent, after, split, alike, last⟩
    -- The entry added is the one that counts, or the last of those behind it.
    rcases List.eq_nil_or_concat' after with rfl | ⟨after, e', rfl⟩
    · have ends := (List.append_inj' split rfl).2
      cases List.singleton_inj.mp ends
      exact Or.inl ⟨alike, rfl⟩
    · rw [← List.cons_append, ← List.append_assoc] at split
      obtain ⟨rfl, ends⟩ := List.append_inj' split rfl
      cases List.singleton_inj.mp ends
      obtain ⟨earlier, latest⟩ := List.forall_mem_append.mp last
      exact Or.inr ⟨latest e List.mem_cons_self, before, sent, after, rfl, alike, earlier⟩
  · rintro (⟨alike, rfl⟩ | ⟨other, before, sent, after, rfl, alike, last⟩)
    · exact ⟨entries, e.1, [], rfl, alike, List.forall_mem_nil _⟩
    · refine ⟨before, sent, after ++ [e], by simp, alike, ?_⟩
      exact List.forall_mem_append.mpr ⟨last, List.forall_mem_singleton.mpr other⟩

theorem find?_ofEntries_iff : (ofEntries entries).find? name = some text ↔ Sends entries name text := by
  -- From the end, since the last entry overwrites those before it.
  induction entries using List.reverseRecOn with
  | nil => exact iff_of_false nofun fun ⟨before, _, _, split, _⟩ => by cases before <;> cases split
  | append_singleton entries e ih =>
    rw [ofEntries_concat, find?_replace, sends_concat]
    by_cases alike : lower e.1 = name
    · simp [alike, eq_comm]
    · have other : name ≠ lower e.1 := fun same => alike same.symm
      simp [alike, other, ih]

end Headers

/-! ### The media type -/

/-- The media type in a content type, in lower case and without its parameters. -/
def mediaType (contentType : String) : String := lower (trim (beforeFirst ';' contentType))

/-- A content type for JSON, or for a format that is built on it. -/
def IsJsonType (contentType : String) : Prop :=
  mediaType contentType = "application/json" ∨ ∃ lead, mediaType contentType = lead ++ "+json"

theorem endsWith_iff {suffix s : String} : endsWith suffix s = true ↔ ∃ lead, s = lead ++ suffix := by
  rw [endsWith, List.isSuffixOf_iff_suffix]
  constructor
  · rintro ⟨lead, whole⟩
    refine ⟨String.ofList lead, String.toList_inj.mp ?_⟩
    rw [String.toList_append, String.toList_ofList, whole]
  · rintro ⟨lead, rfl⟩
    rw [String.toList_append]
    exact List.suffix_append _ _

theorem isJsonType_iff {contentType : String} :
    isJsonType contentType = true ↔ IsJsonType contentType := by
  rw [IsJsonType, ← endsWith_iff]
  simp [isJsonType, mediaType]

/-- The headers say that the body is JSON. -/
def Headers.DeclareJson (entries : List (String × String)) : Prop :=
  ∃ contentType, Sends entries "content-type" contentType ∧ IsJsonType contentType

theorem Response.declaresJson_iff {entries : List (String × String)} :
    declaresJson (.ofEntries entries) = true ↔ Headers.DeclareJson entries := by
  simp only [Headers.DeclareJson, ← Headers.find?_ofEntries_iff, ← isJsonType_iff]
  unfold declaresJson
  cases (Headers.ofEntries entries).find? "content-type" with
  | none => simp
  | some contentType => simp

/-! ### The number of rows -/

/-- The total of a range is what comes after its last slash, without the blanks around it. -/
def Totals (range total : String) : Prop :=
  ∃ lead tail : String, range = lead ++ "/" ++ tail ∧ '/' ∉ tail.toList ∧ total = trim tail

theorem totals_iff {range total : String} :
    Totals range total ↔ contains '/' range = true ∧ total = trim (afterLast '/' range) := by
  constructor
  · rintro ⟨lead, tail, rfl, plain, rfl⟩
    rw [afterLast_segment plain]
    exact ⟨by simp [contains], rfl⟩
  · rintro ⟨slash, rfl⟩
    have member : '/' ∈ range.toList.reverse := List.mem_reverse.mpr (List.contains_iff_mem.mp slash)
    obtain ⟨tail, lead, backwards, plain⟩ := List.eq_append_cons_of_mem member
    have split : range = String.ofList lead.reverse ++ "/" ++ String.ofList tail.reverse := by
      refine String.toList_inj.mp ?_
      rw [← List.reverse_inj, backwards]
      simp
    have plain' : '/' ∉ (String.ofList tail.reverse).toList := by simpa using plain
    refine ⟨_, _, split, plain', ?_⟩
    conv_lhs => rw [split, afterLast_segment plain']

/-- A text of digit signs that is no number: one of them has no place value, or they are too many. -/
structure Misleading (total : String) : Prop where
  filled : total ≠ ""
  signs : ∀ c ∈ total.toList, isDigit c = true
  unread : (∃ c ∈ total.toList, isDecimal c = false) ∨ Number.digitLimit < total.toList.length

/-- A text of decimal digits, not too many of them, and the number that they write. -/
structure Counts (total : String) (n : Nat) : Prop where
  filled : total ≠ ""
  fits : total.toList.length ≤ Number.digitLimit
  read : readDecimal? 0 total.toList = some n

theorem readCount_ok {s : String} {n : Nat} :
    readCount s = .ok n ↔ s.toList.length ≤ Number.digitLimit ∧ readDecimal? 0 s.toList = some n := by
  have decimal (read : (readDecimal? 0 s.toList).isSome) : s.toList.takeWhile isDecimal = s.toList := by
    rw [readDecimal?_isSome] at read
    exact List.takeWhile_eq_self_iff.mpr (List.all_eq_true.mp read)
  unfold readCount
  dsimp only
  cases read : readDecimal? 0 s.toList with
  | none => split <;> simp
  | some m =>
    rw [decimal (read ▸ rfl)]
    split
    · next long => simp [Nat.not_le.mpr long]
    · next fits => simp [Nat.not_lt.mp fits]

theorem parseCount_of_totals {range total : String} (totals : Totals range total) :
    parseCount range =
      if total ≠ "" ∧ total.toList.all isDigit then do return some (← readCount total)
      else .ok none := by
  obtain ⟨slash, rfl⟩ := totals_iff.mp totals
  rw [parseCount, if_pos slash]

theorem parseCount_ok_some {range : String} {n : Nat} :
    parseCount range = .ok (some n) ↔ ∃ total, Totals range total ∧ Counts total n := by
  constructor
  · intro counted
    by_cases slash : contains '/' range = true
    · have totals : Totals range _ := totals_iff.mpr ⟨slash, rfl⟩
      rw [parseCount_of_totals totals] at counted
      split at counted
      · next signs =>
        obtain ⟨m, read, same⟩ := bind_ok.mp counted
        cases pure_ok.mp same
        obtain ⟨fits, read⟩ := readCount_ok.mp read
        exact ⟨_, totals, signs.1, fits, read⟩
      · cases counted
    · rw [parseCount, if_neg slash] at counted
      cases counted
  · rintro ⟨total, totals, filled, fits, read⟩
    have decimal : total.toList.all isDecimal = true := by
      rw [← readDecimal?_isSome 0, read]
      rfl
    have signs : total.toList.all isDigit = true :=
      List.all_eq_true.mpr fun c member => isDigit_of_isDecimal (List.all_eq_true.mp decimal c member)
    rw [parseCount_of_totals totals, if_pos ⟨filled, signs⟩]
    exact bind_ok.mpr ⟨n, readCount_ok.mpr ⟨fits, read⟩, rfl⟩

theorem readCount_fails {s : String} :
    (∃ f, readCount s = .error f) ↔
      (∃ c ∈ s.toList, isDecimal c = false) ∨ Number.digitLimit < s.toList.length := by
  have fails : (∃ f, readCount s = .error f) ↔ ¬ ∃ n, readCount s = .ok n := by
    cases readCount s <;> simp
  have decimal : (∃ n, readDecimal? 0 s.toList = some n) ↔ ∀ c ∈ s.toList, isDecimal c = true := by
    rw [← Option.isSome_iff_exists, readDecimal?_isSome, List.all_eq_true]
  simp only [fails, readCount_ok, exists_and_left, decimal, not_and_or, Nat.not_le, not_forall,
    exists_prop, Bool.not_eq_true]
  exact or_comm

theorem parseCount_fails {range : String} :
    (∃ f, parseCount range = .error f) ↔ ∃ total, Totals range total ∧ Misleading total := by
  constructor
  · rintro ⟨f, failed⟩
    by_cases slash : contains '/' range = true
    · have totals : Totals range _ := totals_iff.mpr ⟨slash, rfl⟩
      rw [parseCount_of_totals totals] at failed
      split at failed
      · next signs =>
        rcases bind_fails.mp ⟨f, failed⟩ with unread | ⟨n, _, f', never⟩
        · exact ⟨_, totals, signs.1, List.all_eq_true.mp signs.2, readCount_fails.mp unread⟩
        · cases never
      · cases failed
    · rw [parseCount, if_neg slash] at failed
      cases failed
  · rintro ⟨total, totals, filled, signs, unread⟩
    rw [parseCount_of_totals totals, if_pos ⟨filled, List.all_eq_true.mpr signs⟩]
    exact bind_fails.mpr (Or.inl (readCount_fails.mpr unread))

end RestQuery
