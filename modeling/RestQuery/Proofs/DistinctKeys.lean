import RestQuery.Proofs.StepParts

/-!
# Keys that stand once

A run repeats a key of the query exactly when a filter that stores its column as it is given is
called with something other than a text whose text is a key already. All other steps look for
their key first.
-/

namespace RestQuery

open Text

namespace Query

theorem distinct_append_iff {q : Query} {key text : String} :
    (q.append key text).Distinct ↔ q.Distinct ∧ key ∉ q.keys := by
  have keys_eq : (q.append key text).keys = q.keys ++ [key] := by simp [append, keys]
  unfold Distinct
  rw [keys_eq]
  constructor
  · intro distinct
    obtain ⟨distinct, _, apart⟩ := List.nodup_append.mp distinct
    exact ⟨distinct, fun member => apart key member key List.mem_cons_self rfl⟩
  · rintro ⟨distinct, absent⟩
    refine List.nodup_append.mpr ⟨distinct, by simp, fun other member k same => ?_⟩
    rw [List.mem_singleton.mp same]
    rintro rfl
    exact absent member

theorem keys_prefix_put (key value : String) (f : String → String) (q : Query) :
    q.keys <+: (Query.mk (put key value f q.entries)).keys := by
  unfold keys
  rw [keys_put]
  split
  · exact List.prefix_rfl
  · exact List.prefix_append _ _

end Query

namespace QueryWrite

theorem keys_prefix_apply (q : Query) (w : QueryWrite) : q.keys <+: (w.apply q).keys := by
  cases w with
  | set key text => exact Query.keys_prefix_put key text _ q
  | merge key text => exact Query.keys_prefix_put key text _ q
  | extend key group => exact Query.keys_prefix_put key _ _ q
  | add key text =>
    unfold Query.keys apply Query.append
    rw [List.map_append]
    exact List.prefix_append _ _

/-- Writes never take a key away or move it. -/
theorem keys_prefix_run (q : Query) (ws : List QueryWrite) : q.keys <+: (run q ws).keys := by
  induction ws generalizing q with
  | nil => exact List.prefix_rfl
  | cons w ws ih => exact (keys_prefix_apply q w).trans (ih (w.apply q))

theorem distinct_apply {q : Query} {w : QueryWrite} (distinct : q.Distinct)
    (placed : w.inPlace = true) : (w.apply q).Distinct := by
  cases w with
  | set key text => exact distinct.replace key text
  | merge key text => exact distinct.merge key text
  | extend key group => exact distinct.replace key _
  | add key text => cases placed

theorem distinct_run {q : Query} {ws : List QueryWrite} (distinct : q.Distinct)
    (placed : ∀ w ∈ ws, w.inPlace = true) : (run q ws).Distinct := by
  induction ws generalizing q with
  | nil => exact distinct
  | cons w ws ih =>
    obtain ⟨here, later⟩ := List.forall_mem_cons.mp placed
    exact ih (distinct_apply distinct here) later

theorem distinct_of_run {q : Query} {ws : List QueryWrite} (distinct : (run q ws).Distinct) :
    q.Distinct :=
  distinct.sublist (keys_prefix_run q ws).sublist

end QueryWrite

namespace Step

variable {r r' : Request} {s : Step} {ws : List QueryWrite}

/-- The key that a step makes a new entry for, whatever entries there are. -/
def looseKey? (s : Step) : Option String :=
  match s.rawColumn? with
  | none | some (.text _) => none
  | some column => column.display.toOption

theorem looseKey?_eq_some {key : String} : s.looseKey? = some key ↔
    ∃ column, s.rawColumn? = some column ∧ (∀ k, column ≠ .text k) ∧
      column.display = .ok key := by
  unfold looseKey?
  split
  · rename_i absent
    simp [absent]
  · rename_i name takes
    simp only [takes, reduceCtorEq, false_iff, not_exists, not_and]
    rintro column same other
    cases same
    exact absurd rfl (other name)
  · rename_i column other takes
    rw [toOption_ok]
    constructor
    · intro shown
      exact ⟨column, takes, other, shown⟩
    · rintro ⟨column', takes', _, shown⟩
      cases takes.symm.trans takes'
      exact shown

theorem writes_of_looseKey? {key : String} (written : s.writes = .ok ws)
    (loose : s.looseKey? = some key) : ∃ text, ws = [.add key text] := by
  obtain ⟨column, takes, other, shown⟩ := looseKey?_eq_some.mp loose
  have added {text : String} (made : rawWrites column text = .ok ws) :
      ∃ text, ws = [.add key text] := by
    obtain ⟨k, same, _⟩ | ⟨_, k, shown', rfl⟩ := rawWrites_ok.mp made
    · exact absurd same (other k)
    · cases shown.symm.trans shown'
      exact ⟨text, rfl⟩
  cases s with
  | filterRaw _ operator value | filterNot _ operator value =>
    simp only [writes, condition?, bind_ok] at written
    obtain ⟨_, _, _, _, made⟩ := written
    cases takes
    exact added made
  | _ => cases takes

theorem condition_writes_in_place {c : Condition} (written : c.writes = .ok ws) :
    ∀ w ∈ ws, w.inPlace = true := by
  simp only [Condition.writes, bind_ok, pure_ok] at written
  obtain ⟨_, _, rfl⟩ := written
  refine List.forall_mem_singleton.mpr ?_
  split
  · rfl
  · rfl

theorem writes_in_place (written : s.writes = .ok ws) (strict : s.looseKey? = none) :
    ∀ w ∈ ws, w.inPlace = true := by
  cases writing_of_writes written with
  | condition takes made => exact condition_writes_in_place made
  | raw takes made =>
    obtain ⟨key, rfl, rfl⟩ | ⟨other, key, shown, rfl⟩ := rawWrites_ok.mp made
    · exact List.forall_mem_singleton.mpr rfl
    · have loose : s.looseKey? = some key := looseKey?_eq_some.mpr ⟨_, takes, other, shown⟩
      rw [strict] at loose
      cases loose
  | equalities made =>
    intro w member
    obtain ⟨ws, present, member⟩ := List.mem_flatten.mp member
    obtain ⟨e, _, made⟩ := mapM_ok_mem made ws present
    obtain ⟨c, _, made⟩ := bind_ok.mp made
    exact condition_writes_in_place made w member
  | conjunction _ _ => exact List.forall_mem_singleton.mpr rfl
  | shape _ shapes => exact fun w member => (shapes w member).1

/-! ### Runs -/

/-- A step that succeeds and makes a new entry for a key that is there already. -/
def Repeats (r : Request) (s : Step) : Prop :=
  (∃ r', s.apply r = .ok r') ∧ ∃ key ∈ r.query.keys, s.looseKey? = some key

theorem distinct_apply_iff (done : s.apply r = .ok r') :
    r'.query.Distinct ↔ r.query.Distinct ∧ ¬ s.Repeats r := by
  obtain ⟨ws, written, after⟩ := apply_query done
  rw [after]
  cases loose : s.looseKey? with
  | none =>
    have apart : ¬ s.Repeats r := by
      rintro ⟨_, key, _, found⟩
      rw [loose] at found
      cases found
    constructor
    · exact fun distinct => ⟨QueryWrite.distinct_of_run distinct, apart⟩
    · exact fun ⟨distinct, _⟩ =>
        QueryWrite.distinct_run distinct (writes_in_place written loose)
  | some key =>
    obtain ⟨text, rfl⟩ := writes_of_looseKey? written loose
    have repeats_iff : s.Repeats r ↔ key ∈ r.query.keys := by
      constructor
      · rintro ⟨_, found, member, same⟩
        cases loose.symm.trans same
        exact member
      · exact fun member => ⟨⟨r', done⟩, key, member, loose⟩
    rw [repeats_iff]
    exact Query.distinct_append_iff

theorem distinct_advance_iff (r : Request) (s : Step) :
    (s.advance r).query.Distinct ↔ r.query.Distinct ∧ ¬ s.Repeats r := by
  cases outcome : s.apply r with
  | ok next =>
    rw [advance_of_ok outcome]
    exact distinct_apply_iff outcome
  | error fault =>
    rw [advance_of_error outcome]
    refine ⟨fun distinct => ⟨distinct, ?_⟩, And.left⟩
    rintro ⟨⟨next, done⟩, _⟩
    cases outcome.symm.trans done

theorem distinct_advanceAll_iff (r : Request) (steps : List Step) :
    (advanceAll r steps).query.Distinct ↔ r.query.Distinct ∧
      ∀ before s after, steps = before ++ s :: after → ¬ s.Repeats (advanceAll r before) := by
  induction steps generalizing r with
  | nil =>
    refine ⟨fun distinct => ⟨distinct, ?_⟩, And.left⟩
    intro before s after same
    cases before <;> cases same
  | cons s steps ih =>
    rw [advanceAll_cons, ih, distinct_advance_iff, and_assoc]
    refine and_congr_right fun _ => ?_
    constructor
    · rintro ⟨first, later⟩ before s' after same
      cases before with
      | nil =>
        cases same
        exact first
      | cons s'' before =>
        cases same
        exact later before s' after rfl
    · intro none_repeats
      refine ⟨none_repeats [] s steps rfl, fun before s' after same => ?_⟩
      exact none_repeats (s :: before) s' after (by rw [same]; rfl)

/-- A run from a new request keeps the keys distinct exactly when none of its steps repeats one, and
then the keys read the same in the query and in its map. -/
theorem distinct_of_run_iff {client : Client} {relation : Value} {r : Request}
    (started : client.request relation = .ok r) (steps : List Step) :
    ((advanceAll r steps).query.Distinct ↔
      ∀ before s after, steps = before ++ s :: after → ¬ s.Repeats (advanceAll r before)) ∧
    ((advanceAll r steps).query.Distinct → ∀ key,
      (advanceAll r steps).getQuery (.text key) =
        (((advanceAll r steps).queryParams.lookup key).map Value.text).getD .null) := by
  have fresh : r.query.Distinct := by
    rw [Client.query_of_request started]
    exact List.nodup_nil
  refine ⟨?_, fun distinct key => ?_⟩
  · rw [distinct_advanceAll_iff]
    exact and_iff_right fresh
  · rw [Request.queryParams, Query.lookup_params distinct, Request.getQuery]

theorem distinct_of_run_iff_reused :
    let client : Client := ⟨"http://h", "k", "public", [], "/rest/v1"⟩
    let steps : List Step :=
      [.filterRaw (.int 5) (.text "eq") (.int 1), .filterRaw (.text "5") (.text "gt") (.int 2),
        .filterNot (.bool true) (.text "is") .null]
    (advanceAll (client.seed "t") steps).query.entries =
        [("5", "gt.2"), ("True", "not.is.null")] ∧
      (∀ before s after, steps = before ++ s :: after →
        ¬ s.Repeats (advanceAll (client.seed "t") before)) ∧
      (advanceAll (client.seed "t") steps).getQuery (.text "5") = .text "gt.2" := by
  intro client steps
  have started : client.request (.text "t") = .ok (client.seed "t") := rfl
  have entries : (advanceAll (client.seed "t") steps).query.entries =
      [("5", "gt.2"), ("True", "not.is.null")] := rfl
  have distinct : (advanceAll (client.seed "t") steps).query.Distinct := by
    unfold Query.Distinct Query.keys
    rw [entries]
    decide
  obtain ⟨distinct_iff, agree⟩ := distinct_of_run_iff started steps
  refine ⟨entries, distinct_iff.mp distinct, (agree distinct "5").trans ?_⟩
  rfl

/-- A column that is a number is not found again: its key stands twice, and the query and its map
disagree on it. -/
theorem repeated_key_of_number :
    let client : Client := ⟨"http://h", "k", "public", [], "/rest/v1"⟩
    let steps : List Step :=
      [.filterRaw (.int 5) (.text "eq") (.int 1), .filterRaw (.int 5) (.text "eq") (.int 2)]
    client.request (.text "t") = .ok (client.seed "t") ∧
      ¬ (advanceAll (client.seed "t") steps).query.Distinct ∧
      (advanceAll (client.seed "t") steps).getQuery (.text "5") = .text "eq.1" ∧
      (advanceAll (client.seed "t") steps).queryParams = [("5", "eq.2")] := by
  intro client steps
  have entries : (advanceAll (client.seed "t") steps).query.entries =
      [("5", "eq.1"), ("5", "eq.2")] := rfl
  refine ⟨rfl, ?_, rfl, rfl⟩
  unfold Query.Distinct Query.keys
  rw [entries]
  decide

end Step

end RestQuery
