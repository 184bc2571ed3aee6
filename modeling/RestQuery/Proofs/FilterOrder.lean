import RestQuery.Proofs.ConditionRenderings
import RestQuery.Proofs.QueryEntries
import RestQuery.Proofs.StepWrites

/-!
# The order of filters

Filters on different columns write at different keys of the query. A key that is there keeps its
place and a new one goes to the end, so that the order of two filters shows in the order of new
keys and nowhere else: `filters_commute` says so for two filters and for the entries of a match.
-/

namespace RestQuery

open Text

/-! ### Queries in another order -/

namespace Query

/-- Queries that hold the same at every key, and the same entries in another order. -/
structure Alike (q q' : Query) : Prop where
  reads : ∀ key, q.get? key = q'.get? key
  entries : q.entries.Perm q'.entries

namespace Alike

variable {q q' q'' : Query}

theorem refl (q : Query) : q.Alike q := ⟨fun _ => rfl, .refl _⟩

theorem trans (first : q.Alike q') (second : q'.Alike q'') : q.Alike q'' :=
  ⟨fun key => (first.reads key).trans (second.reads key), first.entries.trans second.entries⟩

end Alike

end Query

/-! ### Writes at different keys -/

namespace QueryWrite

open Query (Alike)

variable {q q' : Query} {w w' : QueryWrite}

/-- A write in place puts a text at its key, and which text depends on what is there alone. -/
theorem exists_put (placed : w.inPlace = true) (current : Option String) :
    ∃ text f, ∀ q : Query, q.get? w.key = current →
      w.apply q = ⟨Query.put w.key text f q.entries⟩ := by
  cases w with
  | set key text => exact ⟨text, fun _ => text, fun _ _ => rfl⟩
  | merge key text => exact ⟨text, (Query.join · text), fun _ _ => rfl⟩
  | extend key group =>
    refine ⟨joinGroups current group, fun _ => joinGroups current group, fun q here => ?_⟩
    rw [← here]
    rfl
  | add key text => cases placed

theorem alike_apply (placed : w.inPlace = true) (alike : q.Alike q') :
    (w.apply q).Alike (w.apply q') := by
  obtain ⟨text, f, puts⟩ := exists_put placed (q.get? w.key)
  refine ⟨fun key => get?_apply_congr w (alike.reads key), ?_⟩
  rw [puts q rfl, puts q' (alike.reads w.key).symm]
  exact Query.put_perm alike.entries

theorem alike_run {ws : List QueryWrite} (placed : ∀ w ∈ ws, w.inPlace = true)
    (alike : q.Alike q') : (run q ws).Alike (run q' ws) := by
  induction ws generalizing q q' with
  | nil => exact alike
  | cons w ws ih =>
    obtain ⟨here, later⟩ := List.forall_mem_cons.mp placed
    exact ih later (alike_apply here alike)

theorem get?_apply_comm (apart : w.key ≠ w'.key) (q : Query) (k : String) :
    (w'.apply (w.apply q)).get? k = (w.apply (w'.apply q)).get? k := by
  by_cases here : w.key = k
  · have other : w'.key ≠ k := fun same => apart (here.trans same.symm)
    rw [get?_apply_other other]
    exact get?_apply_congr w (get?_apply_other other).symm
  · rw [get?_apply_other here]
    exact get?_apply_congr w' (get?_apply_other here)

section
variable (apart : w.key ≠ w'.key) (placed : w.inPlace = true) (placed' : w'.inPlace = true)
include apart placed placed'

/-- Each of two writes puts the same text whether it comes first or second. -/
theorem exists_puts (q : Query) : ∃ u v f g,
    w'.apply (w.apply q) =
        ⟨Query.put w'.key v g (Query.put w.key u f q.entries)⟩ ∧
      w.apply (w'.apply q) =
        ⟨Query.put w.key u f (Query.put w'.key v g q.entries)⟩ := by
  obtain ⟨u, f, puts⟩ := exists_put placed (q.get? w.key)
  obtain ⟨v, g, puts'⟩ := exists_put placed' (q.get? w'.key)
  refine ⟨u, v, f, g, ?_, ?_⟩
  · rw [puts' (w.apply q) (get?_apply_other apart), puts q rfl]
  · rw [puts (w'.apply q) (get?_apply_other (Ne.symm apart)), puts' q rfl]

theorem alike_apply_comm (q : Query) :
    (w'.apply (w.apply q)).Alike (w.apply (w'.apply q)) := by
  refine ⟨get?_apply_comm apart q, ?_⟩
  obtain ⟨u, v, f, g, first, second⟩ := exists_puts apart placed placed' q
  rw [first, second]
  exact Query.put_comm_perm apart q.entries

theorem apply_comm (held : w.key ∈ q.keys ∨ w'.key ∈ q.keys) :
    w'.apply (w.apply q) = w.apply (w'.apply q) := by
  obtain ⟨u, v, f, g, first, second⟩ := exists_puts apart placed placed' q
  rw [first, second]
  rcases held with held | held
  · rw [Query.put_comm apart held]
  · rw [Query.put_comm (Ne.symm apart) held]

end

/-- Writes at different keys can be done in any order. -/
theorem alike_run_perm {ws ws' : List QueryWrite} (perm : ws.Perm ws')
    (placed : ∀ w ∈ ws, w.inPlace = true) (distinct : (ws.map key).Nodup) (q : Query) :
    (run q ws).Alike (run q ws') := by
  induction perm generalizing q with
  | nil => exact .refl q
  | cons w _ ih =>
    exact ih (List.forall_mem_cons.mp placed).2 (List.nodup_cons.mp distinct).2 (w.apply q)
  | swap w w' ws =>
    obtain ⟨placed', later⟩ := List.forall_mem_cons.mp placed
    obtain ⟨placed, later⟩ := List.forall_mem_cons.mp later
    have apart : w'.key ≠ w.key := fun same =>
      (List.nodup_cons.mp distinct).1 (same ▸ List.mem_cons_self)
    exact alike_run later (alike_apply_comm apart placed' placed q)
  | trans first _ ih ih' =>
    -- The keys are distinct in the list between as well.
    refine (ih placed distinct q).trans (ih' ?_ ?_ q)
    · exact fun w member => placed w (first.mem_iff.mpr member)
    · exact (first.map key).nodup_iff.mp distinct

end QueryWrite

/-! ### Filters on columns -/

/-- Requests that differ in the order of their queries alone. -/
structure Request.Alike (r r' : Request) : Prop where
  reads : ∀ key, r.getQuery key = r'.getQuery key
  frame : r = { r' with query := r.query }
  entries : r.query.entries.Perm r'.query.entries

theorem Request.alike_of_query (r : Request) {q q' : Query} (alike : q.Alike q') :
    Request.Alike { r with query := q } { r with query := q' } := by
  refine ⟨fun key => ?_, rfl, alike.entries⟩
  cases key with
  | text key =>
    simp only [getQuery]
    rw [alike.reads key]
  | _ => rfl

namespace Step

variable {r r' : Request} {s : Step}

/-- A filter on a column, by a condition on it or by what the caller stores under it. -/
inductive OnColumn (s : Step) (column : String) : Prop where
  | condition {c : Condition} (takes : s.condition? = some (.ok c))
      (tested : c.column? = some column)
  | stored (takes : s.rawColumn? = some (.text column))

/-- The step succeeds on every request, and does nothing but one write to the query. -/
def Writes (s : Step) (w : QueryWrite) : Prop :=
  ∀ r : Request, s.apply r = .ok { r with query := w.apply r.query }

theorem exists_write_of_param {c : Condition} {key value : String}
    (takes : s.condition? = some (.ok c)) (rendered : c.param = .ok (key, value)) :
    ∃ w, w.key = key ∧ w.inPlace = true ∧ s.Writes w := by
  have applied {ws : List QueryWrite} (written : c.writes = .ok ws) (r : Request) :
      s.apply r = .ok { r with query := QueryWrite.run r.query ws } := by
    rw [apply_of_condition takes]
    exact Request.restrict_ok.mpr ⟨ws, written, rfl⟩
  have written : c.writes =
      .ok [if key = Request.conjunctionKey then .extend key value else .set key value] :=
    bind_ok.mpr ⟨(key, value), rendered, rfl⟩
  by_cases conjunction : key = Request.conjunctionKey
  · rw [if_pos conjunction] at written
    exact ⟨.extend key value, rfl, rfl, applied written⟩
  · rw [if_neg conjunction] at written
    exact ⟨.set key value, rfl, rfl, applied written⟩

theorem exists_write {column : String} (filters : s.OnColumn column) (done : s.apply r = .ok r') :
    ∃ w, w.key = column ∧ w.inPlace = true ∧ s.Writes w := by
  cases filters with
  | condition takes tested =>
    rw [apply_of_condition takes] at done
    obtain ⟨ws, written, -⟩ := Request.restrict_ok.mp done
    obtain ⟨⟨key, value⟩, rendered, -⟩ := bind_ok.mp written
    obtain rfl := Condition.key_of_column? tested rendered
    exact exists_write_of_param takes rendered
  | stored takes =>
    cases s with
    | filterRaw _ operator value =>
      cases takes
      simp only [apply, Request.filterRaw, bind_ok] at done
      obtain ⟨expression, accepted, text, shown, -⟩ := done
      refine ⟨.set column (expression ++ "." ++ text), rfl, rfl, fun r => ?_⟩
      simp only [apply, Request.filterRaw, accepted, shown]
      rfl
    | filterNot _ operator value =>
      cases takes
      simp only [apply, Request.filterNot, bind_ok] at done
      obtain ⟨expression, accepted, text, shown, -⟩ := done
      refine ⟨.set column ("not." ++ expression ++ "." ++ text), rfl, rfl, fun r => ?_⟩
      simp only [apply, Request.filterNot, accepted, shown]
      rfl
    | _ => cases takes

theorem run_of_writes {α : Type} {step : α → Step} {write : α → QueryWrite} {xs : List α}
    (each : ∀ x ∈ xs, (step x).Writes (write x)) (r : Request) :
    run r (xs.map step) = .ok { r with query := QueryWrite.run r.query (xs.map write) } := by
  induction xs generalizing r with
  | nil => rfl
  | cons x xs ih =>
    obtain ⟨first, later⟩ := List.forall_mem_cons.mp each
    rw [List.map_cons, run_cons, first r]
    exact ih later _

theorem run_pair {s' : Step} {w w' : QueryWrite} (first : s.Writes w) (second : s'.Writes w')
    (r : Request) : run r [s, s'] = .ok { r with query := w'.apply (w.apply r.query) } := by
  rw [run_cons, first r]
  show run { r with query := w.apply r.query } [s'] = _
  rw [run_cons, second _]
  rfl

/-! ### Matches -/

/-- The map of some columns to values. -/
def columnMap (m : List (String × Value)) : Value := .map (m.map fun e => (.text e.1, e.2))

/-- A match is one filter after the other. -/
theorem filterMatch_eq_run (r : Request) (m : List (String × Value)) :
    r.filterMatch (columnMap m) = run r (m.map fun e => filterCompare .eq (.text e.1) e.2) := by
  rw [columnMap, Request.filterMatch, List.foldlM_map, run, List.foldlM_map]
  rfl

theorem exists_write_of_equality {column : String} {v : Value} (filled : column ≠ "")
    (renders : v.Renders) : ∃ w, w.key = column ∧ w.inPlace = true ∧
      (filterCompare .eq (.text column) v).Writes w := by
  have compared := Condition.compare_eq filled v
  have rendered : (Condition.comparison .eq column v).Rendered := .comparison renders
  obtain ⟨text, operand⟩ := rendered.operand_ok rfl fun _ => nofun
  exact exists_write_of_param (congrArg some compared) (Condition.param_of_column rfl operand)

/-- The writes of the entries of a match do not depend on their order. -/
theorem filterMatch_alike {m m' : List (String × Value)} (perm : m.Perm m')
    (distinct : (m.map (·.1)).Nodup) (each : ∀ e ∈ m, e.1 ≠ "" ∧ e.2.Renders) (r : Request) :
    ∃ t t', r.filterMatch (columnMap m) = .ok t ∧ r.filterMatch (columnMap m') = .ok t' ∧
      t.Alike t' := by
  have writable (e : String × Value) (member : e ∈ m) : ∃ w : QueryWrite, w.key = e.1 ∧
      w.inPlace = true ∧ (filterCompare .eq (.text e.1) e.2).Writes w :=
    exists_write_of_equality (each e member).1 (each e member).2
  -- Chosen once for each entry, the writes of the two matches are permutations of each other.
  have : Nonempty QueryWrite := ⟨.set "" ""⟩
  choose! write keyed placed writes using writable
  have writes' (e : String × Value) (member : e ∈ m') :
      (filterCompare .eq (.text e.1) e.2).Writes (write e) :=
    writes e (perm.mem_iff.mpr member)
  have keys : (m.map write).map QueryWrite.key = m.map (·.1) := by
    rw [List.map_map]
    exact List.map_congr_left keyed
  have alike : (QueryWrite.run r.query (m.map write)).Alike
      (QueryWrite.run r.query (m'.map write)) := by
    refine QueryWrite.alike_run_perm (perm.map write) (List.forall_mem_map.mpr placed) ?_ r.query
    rw [keys]
    exact distinct
  refine ⟨_, _, ?_, ?_, r.alike_of_query alike⟩
  · rw [filterMatch_eq_run, run_of_writes writes]
  · rw [filterMatch_eq_run, run_of_writes writes']

/-! ### The order of filters -/

/-- Two filters on different columns that both succeed can be applied in either order, and the
entries of a match in any order: only the order of the query differs, and not even that where one of
the two columns is there already. -/
theorem filters_commute (r : Request) :
    (∀ {f g : Step} {a b : String} {rf rg : Request}, f.OnColumn a → g.OnColumn b → a ≠ b →
      f.apply r = .ok rf → g.apply r = .ok rg →
      ∃ fg gf, run r [f, g] = .ok fg ∧ run r [g, f] = .ok gf ∧ fg.Alike gf ∧
        (a ∈ r.query.keys ∨ b ∈ r.query.keys → fg = gf)) ∧
    ∀ {m m' : List (String × Value)}, m.Perm m' → (m.map (·.1)).Nodup →
      (∀ e ∈ m, e.1 ≠ "" ∧ e.2.Renders) →
      ∃ t t', r.filterMatch (columnMap m) = .ok t ∧ r.filterMatch (columnMap m') = .ok t' ∧
        t.Alike t' := by
  refine ⟨fun on_a on_b apart f_done g_done => ?_, fun perm distinct each =>
    filterMatch_alike perm distinct each r⟩
  obtain ⟨w, rfl, placed, f_writes⟩ := exists_write on_a f_done
  obtain ⟨w', rfl, placed', g_writes⟩ := exists_write on_b g_done
  refine ⟨_, _, run_pair f_writes g_writes r, run_pair g_writes f_writes r, ?_, fun held => ?_⟩
  · exact r.alike_of_query (QueryWrite.alike_apply_comm apart placed placed' r.query)
  · rw [QueryWrite.apply_comm apart placed placed' held]

/-- Two new columns end up in the order of their filters, one of them already there leaves no trace
of the order, and neither do the entries of a match. -/
theorem filters_commute_reordered :
    let r : Request := { url := .text "http://h/t", query := ⟨[("b", "is.null"), ("limit", "5")]⟩ }
    let equal : Step := .filterCompare .eq (.text "a") (.int 1)
    let negated : Step := .filterNot (.text "c") (.text "is") .null
    let greater : Step := .filterRaw (.text "b") (.text "gt") (.int 2)
    (∃ t t', run r [equal, negated] = .ok t ∧ run r [negated, equal] = .ok t' ∧ t.Alike t' ∧
      t.query.keys = ["b", "limit", "a", "c"] ∧ t'.query.keys = ["b", "limit", "c", "a"]) ∧
    (∃ t, run r [equal, greater] = .ok t ∧ run r [greater, equal] = .ok t ∧
      t.query.entries = [("b", "gt.2"), ("limit", "5"), ("a", "eq.1")]) ∧
    ∃ t t', r.filterMatch (columnMap [("a", .int 1), ("and", .null)]) = .ok t ∧
      r.filterMatch (columnMap [("and", .null), ("a", .int 1)]) = .ok t' ∧ t.Alike t' ∧
      t'.getQuery (.text "and") = .text "eq.null" := by
  intro r equal negated greater
  obtain ⟨pairs, entries⟩ := filters_commute r
  have on_a : equal.OnColumn "a" := .condition rfl rfl
  have on_b : greater.OnColumn "b" := .stored rfl
  have on_c : negated.OnColumn "c" := .stored rfl
  refine ⟨?_, ?_, ?_⟩
  · obtain ⟨t, t', first, second, alike, -⟩ := pairs on_a on_c (by decide) rfl rfl
    cases first
    cases second
    exact ⟨_, _, rfl, rfl, alike, rfl, rfl⟩
  · obtain ⟨t, t', first, second, -, same⟩ := pairs on_a on_b (by decide) rfl rfl
    obtain rfl := same (Or.inr List.mem_cons_self)
    refine ⟨t, first, second, ?_⟩
    cases first
    rfl
  · have renders : ∀ e ∈ [("a", Value.int 1), ("and", .null)], e.1 ≠ "" ∧ e.2.Renders :=
      List.forall_mem_cons.mpr ⟨⟨by decide, "1", rfl⟩,
        List.forall_mem_singleton.mpr ⟨by decide, "null", rfl⟩⟩
    obtain ⟨t, t', first, second, alike⟩ := entries (List.Perm.swap _ _ []) (by decide) renders
    refine ⟨t, t', first, second, alike, ?_⟩
    cases second
    rfl

end Step

end RestQuery
