import RestQuery.Request.Query

/-!
# Entries that are put

What a change at one key does to the entries of a query: it overwrites in place or appends. Changes
at one key overwrite each other, and changes at two keys commute but for the order of new entries.
-/

namespace RestQuery

namespace Query

variable {a b u v : String} {f g : String → String} {es : List (String × String)}

/-- An entry changed by `f` if it is that of `key`. -/
def change (key : String) (f : String → String) (e : String × String) : String × String :=
  if e.1 == key then (e.1, f e.2) else e

theorem change_mk (key text : String) :
    change a f (key, text) = (key, if key = a then f text else text) := by
  unfold change
  by_cases here : key = a
  · simp [here]
  · simp [here]

theorem put_of_mem (held : a ∈ es.map (·.1)) : put a u f es = es.map (change a f) :=
  if_pos (by simpa using held)

theorem put_of_notMem (absent : a ∉ es.map (·.1)) : put a u f es = es ++ [(a, u)] :=
  if_neg (by simpa using absent)

theorem mem_keys_put : b ∈ (put a u f es).map (·.1) ↔ b ∈ es.map (·.1) ∨ b = a := by
  rw [keys_put]
  split
  · rename_i held
    exact (or_iff_left_of_imp fun same => same ▸ held).symm
  · rw [List.mem_append, List.mem_singleton]

/-! ### Two changes at one key -/

theorem change_change (e : String × String) :
    change a (fun _ => v) (change a f e) = change a (fun _ => v) e := by
  obtain ⟨key, text⟩ := e
  simp only [change_mk]
  by_cases here : key = a
  · rw [if_pos here, if_pos here]
  · rw [if_neg here, if_neg here, if_neg here]

theorem map_change_of_notMem (absent : a ∉ es.map (·.1)) : es.map (change a f) = es := by
  have kept : ∀ e ∈ es, change a f e = e := by
    intro e member
    have other : e.1 ≠ a := fun same => absent (same ▸ List.mem_map_of_mem member)
    exact if_neg (by simpa using other)
  exact (List.map_congr_left kept).trans (List.map_id es)

theorem put_overwrites (es : List (String × String)) :
    put a v (fun _ => v) (put a u f es) = put a v (fun _ => v) es := by
  have held : a ∈ (put a u f es).map (·.1) := mem_keys_put.mpr (Or.inr rfl)
  rw [put_of_mem held]
  by_cases there : a ∈ es.map (·.1)
  · rw [put_of_mem there, put_of_mem there, List.map_map]
    exact List.map_congr_left fun e _ => change_change e
  · rw [put_of_notMem there, put_of_notMem there, List.map_append, map_change_of_notMem there,
      List.map_singleton, change_mk, if_pos rfl]

theorem replace_replace (q : Query) (key value : String) :
    (q.replace key value).replace key value = q.replace key value := by
  unfold replace
  rw [put_overwrites]

/-! ### Changes at two keys -/

theorem change_comm (apart : a ≠ b) (e : String × String) :
    change b g (change a f e) = change a f (change b g e) := by
  obtain ⟨key, text⟩ := e
  simp only [change_mk]
  by_cases here : key = a
  · have other : key ≠ b := here ▸ apart
    rw [if_neg other, if_neg other]
  · rw [if_neg here, if_neg here]

/-- Next to a key that is there, the order of two changes does not matter. -/
theorem put_comm (apart : a ≠ b) (held : a ∈ es.map (·.1)) :
    put b v g (put a u f es) = put a u f (put b v g es) := by
  have still : a ∈ (put b v g es).map (·.1) := mem_keys_put.mpr (Or.inl held)
  rw [put_of_mem still, put_of_mem held]
  by_cases there : b ∈ es.map (·.1)
  · have stays : b ∈ (es.map (change a f)).map (·.1) := by
      rw [← put_of_mem (u := u) held]
      exact mem_keys_put.mpr (Or.inl there)
    rw [put_of_mem stays, put_of_mem there, List.map_map, List.map_map]
    exact List.map_congr_left fun e _ => change_comm apart e
  · have absent : b ∉ (es.map (change a f)).map (·.1) := by
      rw [← put_of_mem (u := u) held, mem_keys_put]
      exact not_or.mpr ⟨there, Ne.symm apart⟩
    rw [put_of_notMem absent, put_of_notMem there, List.map_append, List.map_singleton, change_mk,
      if_neg (Ne.symm apart)]

theorem put_comm_perm (apart : a ≠ b) (es : List (String × String)) :
    (put b v g (put a u f es)).Perm (put a u f (put b v g es)) := by
  by_cases held : a ∈ es.map (·.1)
  · rw [put_comm apart held]
  by_cases there : b ∈ es.map (·.1)
  · rw [put_comm (Ne.symm apart) there]
  -- Both keys are new: they stand at the end in the order of the changes.
  have held' : a ∉ (put b v g es).map (·.1) := by
    rw [mem_keys_put]
    exact not_or.mpr ⟨held, apart⟩
  have there' : b ∉ (put a u f es).map (·.1) := by
    rw [mem_keys_put]
    exact not_or.mpr ⟨there, Ne.symm apart⟩
  rw [put_of_notMem held', put_of_notMem there', put_of_notMem held, put_of_notMem there,
    List.append_assoc, List.append_assoc]
  exact (List.Perm.swap _ _ []).append_left es

theorem put_perm {es' : List (String × String)} (perm : es.Perm es') :
    (put a u f es).Perm (put a u f es') := by
  have keys : a ∈ es.map (·.1) ↔ a ∈ es'.map (·.1) := (perm.map _).mem_iff
  by_cases held : a ∈ es.map (·.1)
  · rw [put_of_mem held, put_of_mem (keys.mp held)]
    exact perm.map _
  · rw [put_of_notMem held, put_of_notMem (mt keys.mpr held)]
    exact perm.append_right _

end Query

end RestQuery
