import RestQuery.Text.Case

/-!
# Lower case is settled

Names are put in lower case again and again, so the mapping must leave its own results alone. No
run of the case data leads into another one, and a sigma never comes out as a capital.
-/

namespace RestQuery.Text

namespace CaseRun

def image (r : CaseRun) (n : Nat) : Nat := (n + r.shift).toNat

/-- The images of a run are no members of another: they lie beyond its ends, or between members
that are two apart. -/
def misses (r q : CaseRun) : Bool :=
  (r.image r.last).blt q.first || q.last.blt (r.image r.first) ||
    q.step == 2 && (r.step == 2 || r.first == r.last) && (r.image r.first + q.first) % 2 == 1

theorem contains_image {r q : CaseRun} {n : Nat} (held : r.contains n = true)
    (natural : (-r.shift).toNat ≤ r.first) (apart : r.misses q = true) :
    q.contains (r.image n) = false := by
  have moved (m : Nat) (above : r.first ≤ m) : (r.image m : Int) = m + r.shift := by
    unfold image
    omega
  simp only [contains, misses, Bool.and_eq_true, Bool.or_eq_true, decide_eq_true_eq,
    beq_iff_eq, Nat.blt_eq] at held apart
  obtain ⟨⟨above, below⟩, whole⟩ := held
  have first := moved r.first (Nat.le_refl _)
  have last := moved r.last (by omega)
  have here := moved n above
  refine Bool.eq_false_iff.mpr fun inside => ?_
  simp only [contains, Bool.and_eq_true, decide_eq_true_eq, beq_iff_eq] at inside
  obtain ⟨⟨above', below'⟩, whole'⟩ := inside
  rcases apart with (short | long) | ⟨⟨paired, line⟩, odd⟩
  · omega
  · omega
  · rw [paired] at whole'
    rcases line with paired' | single
    · rw [paired'] at whole
      omega
    · omega

end CaseRun

/-- The code points that have another lower case: the runs, and the one mapped to a sequence. -/
def movedRuns : List CaseRun := ⟨304, 304, 2, 0⟩ :: lowerRuns

theorem lowerRuns_miss :
    (lowerRuns.all fun r => (-r.shift).toNat.ble r.first && movedRuns.all r.misses) = true := by
  decide +kernel

/-- A character that its lower case leaves alone. -/
def IsLower (c : Char) : Prop := c ≠ 'Σ' ∧ lowerChar c = [c]

instance (c : Char) : Decidable (IsLower c) := inferInstanceAs (Decidable (_ ∧ _))

/-- A code point that no mapping moves is its own lower case, and so is the one put for a bad one. -/
theorem isLower_ofNat {n : Nat} (unmoved : ∀ q ∈ movedRuns, q.contains n = false) :
    IsLower (Char.ofNat n) := by
  have small : ∀ m < 128, CaseRun.contains ⟨65, 90, 1, 32⟩ m = false → IsLower (Char.ofNat m) := by
    decide +kernel
  by_cases ascii : n < 128
  · exact small n ascii (unmoved _ (List.mem_cons_of_mem _ List.mem_cons_self))
  by_cases valid : n.isValidChar
  · have code : (Char.ofNat n).toNat = n := by
      rw [Char.ofNat, dif_pos valid]
      rfl
    refine ⟨?_, ?_⟩
    · rintro sigma
      rw [sigma] at code
      have moved : ∃ q ∈ movedRuns, q.contains 'Σ'.toNat = true := by decide +kernel
      obtain ⟨q, listed, held⟩ := moved
      rw [code, unmoved q listed] at held
      cases held
    · have single : (304 == n) = false := by
        have := unmoved _ List.mem_cons_self
        refine beq_eq_false_iff_ne.mpr ?_
        rintro rfl
        cases this
      have still : lowerRuns.find? (·.contains n) = none :=
        List.find?_eq_none.mpr fun q listed =>
          Bool.eq_false_iff.mp (unmoved q (List.mem_cons_of_mem _ listed))
      simp only [lowerChar, code, if_neg ascii, mapCase, lowerSequences, List.find?_cons, single,
        List.find?_nil, moveBy, still]
  · rw [Char.ofNat, dif_neg valid]
    decide +kernel

theorem isLower_of_mem_lowerChar {c d : Char} (member : d ∈ lowerChar c) : IsLower d := by
  have small : ∀ m < 128, IsLower (Char.ofNat m).toLower := by decide +kernel
  unfold lowerChar at member
  split at member
  · rename_i ascii
    rw [List.mem_singleton.mp member, ← Char.ofNat_toNat c]
    exact small c.toNat ascii
  · unfold mapCase at member
    split at member
    · rename_i image found
      have listed := List.mem_of_find?_eq_some found
      simp only [lowerSequences, List.mem_singleton, Prod.mk.injEq] at listed
      rw [listed.2] at member
      simp only [List.map_cons, List.map_nil, List.mem_cons, List.not_mem_nil, or_false] at member
      rcases member with rfl | rfl
      · decide +kernel
      · decide +kernel
    · rename_i none_listed
      rw [List.mem_singleton.mp member]
      refine isLower_ofNat fun q listed => ?_
      unfold moveBy
      split
      · rename_i r found
        have checked := List.all_eq_true.mp lowerRuns_miss r (List.mem_of_find?_eq_some found)
        obtain ⟨natural, misses⟩ := Bool.and_eq_true_iff.mp checked
        have held : r.contains c.toNat = true := by simpa using List.find?_some found
        exact CaseRun.contains_image held (Nat.ble_eq.mp natural)
          (List.all_eq_true.mp misses q listed)
      · rename_i unmoved
        rcases List.mem_cons.mp listed with rfl | listed
        · have apart := List.find?_eq_none.mp none_listed _ List.mem_cons_self
          simp only [beq_iff_eq] at apart
          refine Bool.eq_false_iff.mpr fun inside => ?_
          simp only [CaseRun.contains, Bool.and_eq_true, decide_eq_true_eq] at inside
          omega
        · exact Bool.eq_false_iff.mpr (List.find?_eq_none.mp unmoved q listed)

theorem isLower_of_mem_lowerFrom {before s : List Char} {d : Char}
    (member : d ∈ lowerFrom before s) : IsLower d := by
  induction s generalizing before with
  | nil => cases member
  | cons c s ih =>
    rcases List.mem_append.mp member with here | later
    · by_cases sigma : c = 'Σ'
      · rw [if_pos sigma] at here
        have either : d = 'ς' ∨ d = 'σ' := by
          split at here
          · exact Or.inl (List.mem_singleton.mp here)
          · exact Or.inr (List.mem_singleton.mp here)
        rcases either with rfl | rfl
        · decide +kernel
        · decide +kernel
      · rw [if_neg sigma] at here
        exact isLower_of_mem_lowerChar here
    · exact ih later

theorem lowerFrom_of_isLower {s : List Char} (settled : ∀ c ∈ s, IsLower c) (before : List Char) :
    lowerFrom before s = s := by
  induction s generalizing before with
  | nil => rfl
  | cons c s ih =>
    obtain ⟨⟨plain, same⟩, later⟩ := List.forall_mem_cons.mp settled
    simp only [lowerFrom, if_neg plain, same, ih later, List.singleton_append]

theorem lower_lower (s : String) : lower (lower s) = lower s := by
  unfold lower
  rw [String.toList_ofList, lowerFrom_of_isLower fun c member => isLower_of_mem_lowerFrom member]

end RestQuery.Text
