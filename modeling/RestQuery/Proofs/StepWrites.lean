import Mathlib.Data.List.Induction
import RestQuery.Client
import RestQuery.Proofs.ConditionBuilding
import RestQuery.Proofs.ConditionEncoding

/-!
# What a step writes to the query

Every step that succeeds acts on the query by a list of writes that it fixes alone, whatever the
request so far. Proofs about runs look at the writes and never at the steps.
-/

namespace RestQuery

open Text

/-- A write at one key of the query. -/
inductive QueryWrite where
  | set (key text : String)
  | merge (key text : String)
  | extend (key group : String)
  | add (key text : String)

namespace QueryWrite

def key : QueryWrite → String
  | set key _ | merge key _ | extend key _ | add key _ => key

/-- The write looks for its key before it makes a new entry. -/
def inPlace : QueryWrite → Bool
  | add _ _ => false
  | _ => true

def apply (q : Query) : QueryWrite → Query
  | set key text => q.replace key text
  | merge key text => q.merge key text
  | extend key group => q.replace key (joinGroups (q.get? key) group)
  | add key text => q.append key text

def run (q : Query) (ws : List QueryWrite) : Query := ws.foldl apply q

theorem run_append (q : Query) (ws vs : List QueryWrite) :
    run q (ws ++ vs) = run (run q ws) vs :=
  List.foldl_append

theorem get?_apply_other {q : Query} {w : QueryWrite} {k : String} (other : w.key ≠ k) :
    (w.apply q).get? k = q.get? k := by
  have apart : k ≠ w.key := Ne.symm other
  cases w with
  | set key text => exact (Query.get?_replace q key text k).trans (if_neg apart)
  | merge key text => exact (Query.get?_merge q key text k).trans (if_neg apart)
  | extend key group => exact (Query.get?_replace q key _ k).trans (if_neg apart)
  | add key text =>
    have unlike : (k == key) = false := beq_eq_false_iff_ne.mpr apart
    simp [apply, Query.append, Query.get?, List.lookup_append, List.lookup_cons, unlike]

theorem get?_run_other {q : Query} {ws : List QueryWrite} {k : String}
    (others : ∀ w ∈ ws, w.key ≠ k) : (run q ws).get? k = q.get? k := by
  induction ws generalizing q with
  | nil => rfl
  | cons w ws ih =>
    obtain ⟨other, others⟩ := List.forall_mem_cons.mp others
    exact (ih others).trans (get?_apply_other other)

/-- What a write leaves at its key, where there is something already or not. -/
def left (current : Option String) : QueryWrite → String
  | set _ text => text
  | merge _ text => (current.map (Query.join · text)).getD text
  | extend _ group => joinGroups current group
  | add _ text => current.getD text

theorem get?_apply_self (q : Query) (w : QueryWrite) :
    (w.apply q).get? w.key = some (w.left (q.get? w.key)) := by
  cases w with
  | set key text => exact (Query.get?_replace q key text key).trans (if_pos rfl)
  | merge key text => exact (Query.get?_merge q key text key).trans (if_pos rfl)
  | extend key group => exact (Query.get?_replace q key _ key).trans (if_pos rfl)
  | add key text =>
    have appended : (Query.append q key text).get? key = (q.get? key).or (some text) := by
      simp [Query.append, Query.get?, List.lookup_append]
    rw [apply, QueryWrite.key, appended]
    cases q.get? key with
    | none => rfl
    | some current => rfl

theorem get?_apply_congr {q q' : Query} {k : String} (w : QueryWrite)
    (same : q.get? k = q'.get? k) : (w.apply q).get? k = (w.apply q').get? k := by
  by_cases here : w.key = k
  · subst here
    rw [get?_apply_self, get?_apply_self, same]
  · rw [get?_apply_other here, get?_apply_other here, same]

/-- Only the writes at a key matter for what it holds. -/
theorem get?_run_filter (q : Query) (ws : List QueryWrite) (k : String) :
    (run q ws).get? k = (run q (ws.filter (·.key = k))).get? k := by
  induction ws using List.reverseRecOn with
  | nil => rfl
  | append_singleton ws w ih =>
    rw [run_append, List.filter_append]
    by_cases here : w.key = k
    · rw [List.filter_cons_of_pos (by simpa using here), List.filter_nil, run_append]
      exact get?_apply_congr w ih
    · rw [List.filter_cons_of_neg (by simpa using here), List.filter_nil, List.append_nil, ← ih]
      exact get?_apply_other here

end QueryWrite

/-! ### Keys within a table -/

/-- The name of a table, if there is one. -/
def Value.scope (table : Value) : Outcome (Option String) :=
  if table.truth then do return some (← table.display) else .ok none

def scopedKey (scope : Option String) (name : String) : String :=
  match scope with
  | none => name
  | some table => table ++ "." ++ name

theorem Request.keyWithin_eq (name : String) (table : Value) :
    Request.keyWithin name table = (do return scopedKey (← table.scope) name) := by
  unfold Request.keyWithin Value.scope
  by_cases given : table.truth = true
  · simp only [if_pos given, bind_assoc]
    rfl
  · simp only [if_neg given]
    rfl

theorem Request.keyWithin_ok {name key : String} {table : Value} :
    Request.keyWithin name table = .ok key ↔
      ∃ scope, table.scope = .ok scope ∧ key = scopedKey scope name := by
  rw [keyWithin_eq]
  simp only [bind_ok, pure_ok, @eq_comm _ key]

/-- A key tells its table from its name when no name has a dot in it. -/
theorem scopedKey_inj {name name' : String} (plain : '.' ∉ name.toList)
    (plain' : '.' ∉ name'.toList) {scope scope' : Option String}
    (same : scopedKey scope name = scopedKey scope' name') : scope = scope' ∧ name = name' := by
  have dotted (table : String) (n : String) :
      (scopedKey (some table) n).toList = table.toList ++ '.' :: n.toList := by
    simp [scopedKey]
  cases scope with
  | none =>
    cases scope' with
    | none => exact ⟨rfl, same⟩
    | some table' =>
      refine absurd ?_ plain
      rw [show name = scopedKey (some table') name' from same, dotted]
      exact List.mem_append_right _ List.mem_cons_self
  | some table =>
    cases scope' with
    | none =>
      refine absurd ?_ plain'
      rw [show name' = scopedKey (some table) name from same.symm, dotted]
      exact List.mem_append_right _ List.mem_cons_self
    | some table' =>
      have same := congrArg String.toList same
      rw [dotted, dotted] at same
      obtain ⟨tables, names⟩ := split_at_last plain plain' same
      exact ⟨by rw [String.toList_injective tables], String.toList_injective names⟩

/-- A group is kept under its own name, or under that of its negation. -/
theorem Condition.scoped_of_groupKey? : ∀ (c : Condition) {key : String}, c.groupKey? = some key →
    ∃ scope, ∃ name ∈ ["and", "or"], key = scopedKey scope name
  | not c, key, grouped => by
    obtain ⟨inner, negated, rfl⟩ := Option.map_eq_some_iff.mp grouped
    obtain ⟨scope, name, named, rfl⟩ := scoped_of_groupKey? c negated
    cases scope with
    | none => exact ⟨some "not", name, named, rfl⟩
    | some table =>
      exact ⟨some ("not." ++ table), name, named, by simp [scopedKey, String.append_assoc]⟩
  | and _, _, rfl => ⟨none, "and", by simp, rfl⟩
  | or _, _, rfl => ⟨none, "or", by simp, rfl⟩
  | comparison _ _ _, _, grouped | quantified _ _ _ _, _, grouped | textSearch _ _ _ _, _, grouped
  | between _ _ _, _, grouped | raw _, _, grouped => nomatch grouped

namespace Condition

def writes (c : Condition) : Outcome (List QueryWrite) := do
  let (key, value) ← c.param
  return [if key = Request.conjunctionKey then .extend key value else .set key value]

end Condition

namespace Step

/-- The condition by which a step restricts the rows, for the steps that take one. -/
def condition? : Step → Option (Outcome Condition)
  | filterBy v => some v.toCondition
  | filterCompare op column value => some (Condition.compare op column value)
  | filterPatterns op quantifier column patterns =>
    let values := match patterns with
      | .text s => .list [.text s]
      | v => v
    some (Condition.quantify op column values (.member (.operator quantifier)))
  | filterIs column value =>
    some (if Request.isIdentity value then Condition.compare .is column value
      else .error (.argument "is" "value" "None, a bool, or 'unknown'" value))
  | filterCollection test column value => some do
    Condition.compare test.operator column (.text (← test.operand value))
  | filterSearch column query kind language => some do
    let op ← Request.searchOperator kind
    if language.truth then Condition.search op column query language
    else Condition.compare op column query
  | _ => none

/-- A text stored under a column as it is given. -/
def rawWrites (column : Value) (text : String) : Outcome (List QueryWrite) :=
  match column with
  | .text key => .ok [.set key text]
  | column => do return [.add (← column.display) text]

/-- Only a text is a key already; anything else makes a new entry under its own text. -/
theorem rawWrites_ok {column : Value} {text : String} {ws : List QueryWrite} :
    rawWrites column text = .ok ws ↔
      (∃ key, column = .text key ∧ ws = [.set key text]) ∨
        (∀ key, column ≠ .text key) ∧ ∃ key, column.display = .ok key ∧ ws = [.add key text] := by
  unfold rawWrites
  split
  · rename_i key
    constructor
    · rintro made
      exact Or.inl ⟨key, rfl, (Except.ok.inj made).symm⟩
    · rintro (⟨_, same, rfl⟩ | ⟨other, _⟩)
      · cases same
        rfl
      · exact absurd rfl (other key)
  · rename_i other
    simp only [bind_ok, pure_ok]
    constructor
    · rintro ⟨key, shown, rfl⟩
      exact Or.inr ⟨other, key, shown, rfl⟩
    · rintro (⟨key, same, _⟩ | ⟨_, key, shown, rfl⟩)
      · exact absurd same (other key)
      · exact ⟨key, shown, rfl⟩

/-- The writes of a step that succeeds. -/
def writes (s : Step) : Outcome (List QueryWrite) :=
  match s.condition? with
  | some c => c >>= Condition.writes
  | none =>
    match s with
    | select columns _ _ => do return [.set "select" (← Request.columnList columns)]
    | insert _ onConflict _ _ | upsert _ onConflict _ _ => do
      return ((← Request.conflictTarget onConflict).map (.set "on_conflict")).toList
    | filterRaw column operator value => do
      let expression ← Operator.expression "filter" operator
      rawWrites column (expression ++ "." ++ (← value.operandText))
    | filterNot column operator value => do
      let expression ← Operator.expression "not" operator
      rawWrites column ("not." ++ expression ++ "." ++ (← value.operandText))
    | allOf conditions table => do
      let group ← Request.groupOf Request.conjunctionKey conditions
      return [.extend (← Request.keyWithin Request.conjunctionKey table) group]
    | anyOf conditions table => do
      let group ← Request.groupOf Request.disjunctionKey conditions
      return [.set (← Request.keyWithin Request.disjunctionKey table) group]
    | filterMatch (.map es) => do
      return (← es.mapM fun e => Condition.compare .eq e.1 e.2 >>= Condition.writes).flatten
    | order column ascending nullsFirst table => do
      let column ← Condition.columnName "order" column
      return [.merge (← Request.keyWithin "order" table)
        (Request.orderTerm column ascending.truth nullsFirst.truth)]
    | limit (.int n) table => do
      return [.set (← Request.keyWithin "limit" table) (← Value.digitsOf n)]
    | range first last table => do
      let (start, count) ← Request.window first last
      let startKey ← Request.keyWithin "offset" table
      let countKey ← Request.keyWithin "limit" table
      return [.set startKey (← Request.boundText start), .set countKey (← Request.boundText count)]
    | returnRows columns => do return [.set "select" (← Request.projection columns)]
    | _ => .ok []

end Step

/-! ### The steps -/

namespace Request

variable {r r' : Request}

theorem restrict_ok {c : Condition} :
    r.restrict c = .ok r' ↔
      ∃ ws, c.writes = .ok ws ∧ r' = { r with query := QueryWrite.run r.query ws } := by
  simp only [restrict, Condition.writes, bind_ok, pure_ok]
  constructor
  · rintro ⟨⟨key, value⟩, rendered, rfl⟩
    refine ⟨_, ⟨(key, value), rendered, rfl⟩, ?_⟩
    by_cases conjunction : key = conjunctionKey
    · simp only [if_pos conjunction]
      rfl
    · simp only [if_neg conjunction]
      rfl
  · rintro ⟨ws, ⟨⟨key, value⟩, rendered, rfl⟩, rfl⟩
    refine ⟨(key, value), rendered, ?_⟩
    by_cases conjunction : key = conjunctionKey
    · simp only [if_pos conjunction]
      rfl
    · simp only [if_neg conjunction]
      rfl

theorem replaceQuery_text_ok {column : Value} {text : String} :
    r.replaceQuery column (.text text) = .ok r' ↔
      ∃ ws, Step.rawWrites column text = .ok ws ∧
        r' = { r with query := QueryWrite.run r.query ws } := by
  cases column with
  | text key =>
    simp only [replaceQuery, putQuery, Step.rawWrites, bind_ok, pure_ok]
    constructor
    · rintro ⟨_, shown, rfl⟩
      cases shown
      exact ⟨_, rfl, rfl⟩
    · rintro ⟨_, written, rfl⟩
      cases written
      exact ⟨text, rfl, rfl⟩
  | _ =>
    simp only [replaceQuery, putQuery, Step.rawWrites, bind_ok, pure_ok]
    constructor
    · rintro ⟨_, shown, key, named, rfl⟩
      cases shown
      exact ⟨_, ⟨key, named, rfl⟩, rfl⟩
    · rintro ⟨_, ⟨key, named, rfl⟩, rfl⟩
      exact ⟨text, rfl, key, named, rfl⟩

theorem filterMatch_ok {es : List (Value × Value)} (h : r.filterMatch (.map es) = .ok r') :
    ∃ wss, es.mapM (fun e => Condition.compare .eq e.1 e.2 >>= Condition.writes) = .ok wss ∧
      r' = { r with query := QueryWrite.run r.query wss.flatten } := by
  simp only [filterMatch] at h
  induction es generalizing r with
  | nil =>
    rw [List.foldlM_nil, pure_ok] at h
    exact ⟨[], rfl, h.symm⟩
  | cons e es ih =>
    rw [List.foldlM_cons, bind_ok] at h
    obtain ⟨middle, first, later⟩ := h
    obtain ⟨c, compared, restricted⟩ := bind_ok.mp first
    obtain ⟨ws, written, rfl⟩ := restrict_ok.mp restricted
    obtain ⟨wss, all_written, rfl⟩ := ih later
    refine ⟨ws :: wss, mapM_cons_ok.mpr ⟨ws, wss, ?_, all_written, rfl⟩, ?_⟩
    · exact bind_ok.mpr ⟨c, compared, written⟩
    · rw [List.flatten_cons, QueryWrite.run_append]

end Request

namespace Step

variable {r r' : Request} {s : Step}

/-- Every step with a condition restricts the request by it. -/
theorem apply_of_condition {c : Outcome Condition} (takes : s.condition? = some c) :
    s.apply r = c >>= r.restrict := by
  cases s with
  | filterBy v | filterCompare op column value | filterPatterns op quantifier column patterns =>
    cases takes
    rfl
  | filterIs column value =>
    cases takes
    by_cases identity : Request.isIdentity value = true
    · simp only [apply, Request.filterIs, if_pos identity]
      rfl
    · simp only [apply, Request.filterIs, if_neg identity]
      rfl
  | filterCollection test column value =>
    cases takes
    exact (bind_assoc _ _ _).symm
  | filterSearch column query kind language =>
    cases takes
    simp only [apply, Request.filterSearch, bind_assoc]
    congr 1
    funext op
    by_cases given : language.truth = true
    · simp only [if_pos given]
    · simp only [if_neg given]
      rfl
  | _ => cases takes

/-! ### The writes by kind -/

/-- The column of a filter that is stored as it is given. -/
def rawColumn? : Step → Option Value
  | filterRaw column _ _ | filterNot column _ _ => some column
  | _ => none

/-- The step restricts the rows by what its caller names, and not in place of an earlier such. -/
def isFilter (s : Step) : Bool :=
  s.condition?.isSome || s.rawColumn?.isSome || (s matches allOf _ _ | filterMatch (.map _))

/-- The names of the keys that are neither columns nor conjunctions. -/
def shapeNames : List String := ["select", "on_conflict", "or", "order", "limit", "offset"]

/-- A write at one of those keys. -/
def Shapes (w : QueryWrite) : Prop :=
  w.inPlace = true ∧ ∃ scope, ∃ name ∈ shapeNames, w.key = scopedKey scope name

/-- The writes of each kind of step. -/
inductive Writing : Step → List QueryWrite → Prop where
  | condition {s : Step} {c : Condition} {ws : List QueryWrite}
      (takes : s.condition? = some (.ok c)) (written : c.writes = .ok ws) : Writing s ws
  | raw {s : Step} {column : Value} {text : String} {ws : List QueryWrite}
      (takes : s.rawColumn? = some column) (written : rawWrites column text = .ok ws) : Writing s ws
  | equalities {es : List (Value × Value)} {wss : List (List QueryWrite)}
      (written : es.mapM (fun e => Condition.compare .eq e.1 e.2 >>= Condition.writes) = .ok wss) :
      Writing (filterMatch (.map es)) wss.flatten
  | conjunction {conditions table : Value} {group : String} {scope : Option String}
      (grouped : Request.groupOf Request.conjunctionKey conditions = .ok group)
      (within : table.scope = .ok scope) :
      Writing (allOf conditions table) [.extend (scopedKey scope "and") group]
  | shape {s : Step} {ws : List QueryWrite} (other : s.isFilter = false)
      (shapes : ∀ w ∈ ws, Shapes w) : Writing s ws

theorem shape_root {s : Step} (other : s.isFilter = false) {w : QueryWrite}
    (placed : w.inPlace = true) (named : w.key ∈ shapeNames) : Writing s [w] :=
  .shape other (List.forall_mem_singleton.mpr ⟨placed, none, w.key, named, rfl⟩)

theorem shape_within {s : Step} (other : s.isFilter = false) {w : QueryWrite} {name : String}
    {table : Value} (placed : w.inPlace = true) (named : name ∈ shapeNames)
    (keyed : Request.keyWithin name table = .ok w.key) : Writing s [w] := by
  obtain ⟨scope, _, same⟩ := Request.keyWithin_ok.mp keyed
  exact .shape other (List.forall_mem_singleton.mpr ⟨placed, scope, name, named, same⟩)

theorem writing_of_writes {ws : List QueryWrite} (written : s.writes = .ok ws) :
    Writing s ws := by
  unfold writes at written
  cases takes : s.condition? with
  | some c =>
    rw [takes] at written
    obtain ⟨c, rfl, written⟩ := bind_ok.mp written
    exact .condition takes written
  | none =>
    rw [takes] at written
    cases s with
    | select columns count returning =>
      obtain ⟨text, _, rfl⟩ := by simpa only [bind_ok, pure_ok] using written
      exact shape_root rfl rfl (by simp [shapeNames, QueryWrite.key])
    | insert data onConflict returning count | upsert data onConflict returning count =>
      obtain ⟨target, _, rfl⟩ := by simpa only [bind_ok, pure_ok] using written
      cases target with
      | none => exact .shape rfl (by simp)
      | some text => exact shape_root rfl rfl (by simp [shapeNames, QueryWrite.key])
    | filterRaw column operator value | filterNot column operator value =>
      simp only [bind_ok] at written
      obtain ⟨_, _, _, _, written⟩ := written
      exact .raw rfl written
    | allOf conditions table =>
      simp only [bind_ok, pure_ok] at written
      obtain ⟨group, grouped, key, keyed, rfl⟩ := written
      obtain ⟨scope, within, rfl⟩ := Request.keyWithin_ok.mp keyed
      exact .conjunction grouped within
    | anyOf conditions table =>
      simp only [bind_ok, pure_ok] at written
      obtain ⟨group, grouped, key, keyed, rfl⟩ := written
      exact shape_within rfl rfl (by decide) keyed
    | filterMatch equalities =>
      cases equalities with
      | map es =>
        obtain ⟨wss, entries_written, rfl⟩ := by simpa only [bind_ok, pure_ok] using written
        exact .equalities entries_written
      | _ =>
        cases written
        exact .shape rfl (by simp)
    | order column ascending nullsFirst table =>
      simp only [bind_ok, pure_ok] at written
      obtain ⟨_, _, key, keyed, rfl⟩ := written
      exact shape_within rfl rfl (by decide) keyed
    | limit count table =>
      cases count with
      | int n =>
        obtain ⟨key, keyed, _, _, rfl⟩ := by simpa only [bind_ok, pure_ok] using written
        exact shape_within rfl rfl (by decide) keyed
      | _ =>
        cases written
        exact .shape rfl (by simp)
    | range first last table =>
      simp only [bind_ok, pure_ok] at written
      obtain ⟨_, _, startKey, start_keyed, countKey, count_keyed, _, _, _, _, rfl⟩ := written
      obtain ⟨scope, _, rfl⟩ := Request.keyWithin_ok.mp start_keyed
      obtain ⟨scope', _, rfl⟩ := Request.keyWithin_ok.mp count_keyed
      refine .shape rfl (List.forall_mem_cons.mpr ⟨?_, List.forall_mem_singleton.mpr ?_⟩)
      · exact ⟨rfl, scope, "offset", by decide, rfl⟩
      · exact ⟨rfl, scope', "limit", by decide, rfl⟩
    | returnRows columns =>
      obtain ⟨text, _, rfl⟩ := by simpa only [bind_ok, pure_ok] using written
      exact shape_root rfl rfl (by simp [shapeNames, QueryWrite.key])
    | filterBy _ | filterCompare _ _ _ | filterPatterns _ _ _ _ | filterIs _ _
    | filterCollection _ _ _ | filterSearch _ _ _ _ => cases takes
    | _ =>
      cases written
      exact .shape rfl (by simp)

/-! ### Runs -/

/-- The request after some steps, each of which changes nothing if it fails. -/
def advanceAll (r : Request) (steps : List Step) : Request := steps.foldl advance r

/-- The steps of a run that succeed. -/
def succeeded (r : Request) : List Step → List Step
  | [] => []
  | s :: steps =>
    match s.apply r with
    | .ok r' => s :: succeeded r' steps
    | .error _ => succeeded r steps

theorem advanceAll_cons (r : Request) (s : Step) (steps : List Step) :
    advanceAll r (s :: steps) = advanceAll (s.advance r) steps := rfl

theorem succeeded_cons_of_ok {steps : List Step} (done : s.apply r = .ok r') :
    succeeded r (s :: steps) = s :: succeeded r' steps := by
  simp only [succeeded, done]

theorem succeeded_cons_of_error {steps : List Step} {f : Fault} (failed : s.apply r = .error f) :
    succeeded r (s :: steps) = succeeded r steps := by
  simp only [succeeded, failed]

theorem apply_of_mem_succeeded {steps : List Step} (member : s ∈ succeeded r steps) :
    ∃ b b', s.apply b = .ok b' := by
  induction steps generalizing r with
  | nil => cases member
  | cons s' steps ih =>
    cases outcome : s'.apply r with
    | error fault =>
      rw [succeeded_cons_of_error outcome] at member
      exact ih member
    | ok next =>
      rw [succeeded_cons_of_ok outcome] at member
      rcases List.mem_cons.mp member with rfl | later
      · exact ⟨r, next, outcome⟩
      · exact ih later

/-- Whatever every step that succeeds changes by itself alone, a run changes step by step. -/
theorem view_advanceAll {α : Type} (view : Request → α) (act : α → Step → α) {steps : List Step}
    (acts : ∀ s ∈ succeeded r steps, ∀ b b', s.apply b = .ok b' → view b' = act (view b) s) :
    view (advanceAll r steps) = (succeeded r steps).foldl act (view r) := by
  induction steps generalizing r with
  | nil => rfl
  | cons s steps ih =>
    rw [advanceAll_cons]
    cases outcome : s.apply r with
    | error fault =>
      rw [succeeded_cons_of_error outcome] at acts ⊢
      rw [advance_of_error outcome]
      exact ih acts
    | ok next =>
      rw [succeeded_cons_of_ok outcome] at acts ⊢
      obtain ⟨here, later⟩ := List.forall_mem_cons.mp acts
      rw [advance_of_ok outcome, ih later, here r next outcome, List.foldl_cons]

/-- What steps overwrite is as the last of them leaves it. -/
theorem last_advanceAll {α : Type} (view : Request → α) (written? : Step → Option α)
    {steps : List Step} (overwrites : ∀ s ∈ succeeded r steps, ∀ b b', s.apply b = .ok b' →
      view b' = (written? s).getD (view b)) :
    view (advanceAll r steps) = ((succeeded r steps).filterMap written?).getLast?.getD (view r) := by
  have last (ss : List Step) (a : α) :
      ss.foldl (fun a s => (written? s).getD a) a = (ss.filterMap written?).getLast?.getD a := by
    induction ss using List.reverseRecOn with
    | nil => rfl
    | append_singleton ss s ih =>
      cases written : written? s with
      | none => simp [written, ih]
      | some b => simp [written]
  rw [view_advanceAll view (fun a s => (written? s).getD a) overwrites, last]

end Step

theorem Client.query_of_request {client : Client} {relation : Value} {r : Request}
    (started : client.request relation = .ok r) : r.query = .empty := by
  unfold Client.request at started
  split at started
  · split at started
    · cases started
    · cases started
      rfl
  · cases started

end RestQuery
