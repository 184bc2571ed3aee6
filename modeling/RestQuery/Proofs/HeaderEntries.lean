import Mathlib.Data.List.Sort
import RestQuery.Proofs.HeaderHistory

/-!
# Headers as a map

As no name stands twice, headers are told by the text at each name. Two headers with the same texts
are equal, and their entries in the order of names are one list: `same_iff`, `sorted_eq_iff`.
-/

namespace RestQuery

open Text

namespace Headers

variable {a b h : Headers}

theorem mem_entries_iff (distinct : h.names.Nodup) {name text : String} :
    (name, text) ∈ h.entries ↔ h.find? name = some text := by
  unfold find?
  rw [List.lookup_eq_some_iff]
  constructor
  · intro member
    obtain ⟨before, after, split⟩ := List.append_of_mem member
    refine ⟨before, after, split, fun e earlier => ?_⟩
    rw [names, split, List.map_append, List.map_cons, List.nodup_append] at distinct
    have apart : e.1 ≠ name :=
      distinct.2.2 e.1 (List.mem_map_of_mem earlier) name List.mem_cons_self
    exact bne_iff_ne.mpr apart.symm
  · rintro ⟨before, after, split, _⟩
    rw [split]
    exact List.mem_append_right _ List.mem_cons_self

/-- Headers with the same texts are the same entries, in whichever order. -/
theorem perm_iff (distinct : a.names.Nodup) (distinct' : b.names.Nodup) :
    a.entries.Perm b.entries ↔ ∀ name, a.find? name = b.find? name := by
  rw [List.perm_ext_iff_of_nodup (.of_map _ distinct) (.of_map _ distinct')]
  constructor
  · intro shared name
    refine Option.ext fun text => ?_
    rw [← mem_entries_iff distinct, ← mem_entries_iff distinct', shared]
  · rintro shared ⟨name, text⟩
    rw [mem_entries_iff distinct, mem_entries_iff distinct', shared]

theorem same_iff (distinct : a.names.Nodup) (distinct' : b.names.Nodup) :
    a.same b = true ↔ ∀ name, a.find? name = b.find? name := by
  rw [← perm_iff distinct distinct']
  unfold same
  simp only [Bool.and_eq_true, beq_iff_eq, List.all_eq_true]
  constructor
  · rintro ⟨length, found⟩
    have contained : a.entries ⊆ b.entries := fun e member =>
      (mem_entries_iff distinct').mpr (found e member)
    exact (List.subperm_of_subset (.of_map _ distinct) contained).perm_of_length_le length.ge
  · intro perm
    exact ⟨perm.length_eq, fun e member => (mem_entries_iff distinct').mp (perm.subset member)⟩

theorem pairwise_sorted (h : Headers) : h.sorted.Pairwise fun e e' => e.1 ≤ e'.1 := by
  refine (List.pairwise_mergeSort ?_ ?_ h.entries).imp of_decide_eq_true
  · intro e e' e'' le le'
    exact decide_eq_true (String.le_trans (of_decide_eq_true le) (of_decide_eq_true le'))
  · intro e e'
    rw [Bool.or_eq_true, decide_eq_true_eq, decide_eq_true_eq]
    exact String.le_total e.1 e'.1

theorem perm_sorted (h : Headers) : h.sorted.Perm h.entries := List.mergeSort_perm ..

/-- The sorted entries say what the headers are as a map, and nothing else. -/
theorem sorted_eq_iff (distinct : a.names.Nodup) (distinct' : b.names.Nodup) :
    a.sorted = b.sorted ↔ ∀ name, a.find? name = b.find? name := by
  rw [← perm_iff distinct distinct']
  constructor
  · intro same
    exact a.perm_sorted.symm.trans (same ▸ b.perm_sorted)
  · intro perm
    have shared : a.sorted.Perm b.sorted :=
      a.perm_sorted.trans (perm.trans b.perm_sorted.symm)
    refine shared.eq_of_pairwise ?_ a.pairwise_sorted b.pairwise_sorted
    -- Entries that come before each other have one name, and a name stands once.
    intro e e' member member' before behind
    have here : e ∈ a.entries := a.perm_sorted.subset member
    have here' : e' ∈ a.entries := a.perm_sorted.subset (shared.symm.subset member')
    exact List.inj_on_of_nodup_map distinct here here' (String.le_antisymm before behind)

theorem put_of_not_mem {name : String} (value : String) {es : List (String × String)}
    (fresh : name ∉ es.map (·.1)) : put name value es = es ++ [(name, value)] := by
  induction es with
  | nil => rfl
  | cons e es ih =>
    rw [List.map_cons, List.mem_cons, not_or] at fresh
    rw [put, if_neg (Ne.symm fresh.1), ih fresh.2, List.cons_append]

/-- Headers are made of their own entries. -/
theorem ofEntries_entries (normal : h.Normal) : ofEntries h.entries = h := by
  obtain ⟨entries⟩ := h
  induction entries using List.reverseRecOn with
  | nil => rfl
  | append_singleton es e ih =>
    obtain ⟨distinct, lowered⟩ := normal
    simp only [names, List.map_append, List.map_singleton] at distinct lowered
    obtain ⟨before, settled⟩ := List.forall_mem_append.mp lowered
    have fresh : e.1 ∉ es.map (·.1) :=
      List.disjoint_singleton.mp (List.disjoint_of_nodup_append distinct)
    rw [ofEntries_concat, ih ⟨distinct.of_append_left, before⟩, replace,
      settled e.1 (List.mem_singleton_self _), insert, put_of_not_mem _ fresh]

end Headers

end RestQuery
