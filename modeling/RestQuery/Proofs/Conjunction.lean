import Mathlib.Data.List.Induction
import RestQuery.Proofs.StepParts

/-!
# Conjunctions collect what steps require

Whatever steps come in between, the group under `and` holds the contents of all conjunctions so
far, in their order, and so does the group of each table.
-/

namespace RestQuery

open Text

/-! ### Groups of contents -/

/-- The group of some contents: empty ones leave no trace, no content is no group. -/
def gathered (contents : List String) : Option String :=
  if contents = [] then none else some ("(" ++ commaJoin (contents.filter (· ≠ "")) ++ ")")

theorem joinGroups_parenthesized (body content : String) :
    joinGroups (some ("(" ++ body ++ ")")) ("(" ++ content ++ ")") =
      "(" ++ (if body = "" then content else if content = "" then body
        else body ++ "," ++ content) ++ ")" := by
  have filled (s : String) : "(" ++ s ++ ")" ≠ "" := by simp
  have empty_iff (s : String) : "(" ++ s ++ ")" = "()" ↔ s = "" := by
    rw [← String.toList_inj, ← String.toList_inj]
    simp
  simp only [joinGroups, filled, false_or, empty_iff]
  by_cases body_empty : body = ""
  · rw [if_pos body_empty, if_pos body_empty]
  · rw [if_neg body_empty, if_neg body_empty]
    by_cases content_empty : content = ""
    · rw [if_pos content_empty, if_pos content_empty]
    · have kept : ("(" ++ body ++ ")").toList.dropLast = ("(" ++ body).toList := by
        rw [String.toList_append]
        exact List.dropLast_concat
      rw [if_neg content_empty, if_neg content_empty, kept, String.ofList_toList,
        ← String.toList_inj]
      simp

theorem gathered_concat (contents : List String) (content : String) :
    gathered (contents ++ [content]) =
      some (joinGroups (gathered contents) ("(" ++ content ++ ")")) := by
  by_cases first : contents = []
  · subst first
    by_cases empty : content = ""
    · subst empty
      rfl
    · simp [gathered, joinGroups, empty, commaJoin, joinWith_singleton]
  have joined : gathered contents =
      some ("(" ++ commaJoin (contents.filter (· ≠ "")) ++ ")") := if_neg first
  rw [joined, joinGroups_parenthesized, gathered, if_neg (by simp), List.filter_append]
  cases visible : contents.filter (· ≠ "") with
  | nil =>
    by_cases empty : content = ""
    · simp [empty, commaJoin, joinWith_nil]
    · simp [empty, commaJoin, joinWith_nil, joinWith_singleton]
  | cons head tail =>
    have head_filled : head ≠ "" := by
      have member : head ∈ contents.filter (· ≠ "") := visible ▸ List.mem_cons_self
      simpa using (List.mem_filter.mp member).2
    rw [if_neg (commaJoin_cons_ne_empty head_filled tail)]
    by_cases empty : content = ""
    · simp [empty]
    · simp only [ne_eq, empty, not_false_eq_true, decide_true, List.filter_cons_of_pos,
        List.filter_nil, if_false]
      rw [commaJoin_concat (List.cons_ne_nil head tail)]

/-! ### Contents of steps -/

/-- Conditions as the content of a group. -/
def Condition.content (cs : List Condition) : Outcome String := do
  return commaJoin (← cs.mapM encode)

/-- The content that a text or a list of conditions gives to a group. -/
def Value.content : Value → Outcome String
  | .text s => .ok s
  | v => do Condition.content (← v.toConditions "group")

theorem Condition.group_content {cs : List Condition} {group : String}
    (grouped : Clause.group (clauses cs) = .ok group) :
    ∃ content, Condition.content cs = .ok content ∧ group = "(" ++ content ++ ")" := by
  obtain ⟨texts, encoded, rfl⟩ := group_clauses_ok.mp grouped
  exact ⟨commaJoin texts, bind_ok.mpr ⟨texts, encoded, rfl⟩, rfl⟩

theorem Request.groupOf_content {key group : String} {conditions : Value}
    (grouped : Request.groupOf key conditions = .ok group) :
    ∃ content, conditions.content = .ok content ∧ group = "(" ++ content ++ ")" := by
  unfold groupOf at grouped
  split at grouped
  · exact ⟨_, rfl, (Except.ok.inj grouped).symm⟩
  · rename_i other
    split at grouped
    · obtain ⟨cs, read, grouped⟩ := bind_ok.mp grouped
      obtain ⟨content, encoded, rfl⟩ := Condition.group_content grouped
      refine ⟨content, ?_, rfl⟩
      unfold Value.content
      split
      · exact absurd rfl (other _)
      · exact bind_ok.mpr ⟨cs, read, encoded⟩
    · cases grouped

namespace Step

/-- The columns that a step filters by, as texts. -/
def columns (s : Step) : List String :=
  match s.condition? with
  | some (.ok c) => c.column?.toList
  | some (.error _) => []
  | none =>
    match s with
    | filterRaw column _ _ | filterNot column _ _ => column.display.toOption.toList
    | filterMatch (.map es) => es.filterMap fun e => e.1.text?
    | _ => []

/-- The key of the negated group by which a step restricts the rows. -/
def negatedGroup? : Step → Option String
  | filterBy v =>
    match v.toCondition with
    | .ok (.not c) => (Condition.not c).groupKey?
    | _ => none
  | _ => none

/-- The content that a step adds to the conjunction of a table, or to that of the relation. -/
def conjunct? (scope : Option String) : Step → Option (Outcome String)
  | allOf conditions table =>
    if table.scope.toOption = some scope then some conditions.content else none
  | filterBy v =>
    match scope, v.toCondition with
    | none, .ok (.and cs) => some (Condition.content cs)
    | _, _ => none
  | _ => none

/-- The key of the conjunction of a table, or of that of the relation. -/
def conjunctionIn (scope : Option String) : String := scopedKey scope Request.conjunctionKey

/-- A filter other than by a free condition is on one column. -/
theorem column_of_named {s : Step} {c : Condition} (takes : s.condition? = some (.ok c))
    (named : ∀ v, s ≠ .filterBy v) : ∃ column, c.column? = some column := by
  have compared {op : Operator} {column value : Value}
      (made : Condition.compare op column value = .ok c) : ∃ name, c.column? = some name := by
    obtain ⟨_, name, _, _, ⟨_, _, rfl⟩ | ⟨_, rfl⟩⟩ := Condition.compare_ok made
    · exact ⟨name, rfl⟩
    · exact ⟨name, rfl⟩
  cases s with
  | filterBy v => exact absurd rfl (named v)
  | filterCompare op column value => exact compared (Option.some.inj takes)
  | filterPatterns op quantifier column patterns =>
    obtain ⟨_, name, _, _, _, _, _, _, rfl⟩ := Condition.quantify_ok (Option.some.inj takes)
    exact ⟨name, rfl⟩
  | filterIs column value =>
    have takes := Option.some.inj takes
    split at takes
    · exact compared takes
    · cases takes
  | filterCollection test column value =>
    obtain ⟨text, _, made⟩ := bind_ok.mp (Option.some.inj takes)
    exact compared made
  | filterSearch column query kind language =>
    obtain ⟨op, _, made⟩ := bind_ok.mp (Option.some.inj takes)
    split at made
    · obtain ⟨_, name, _, _, rfl⟩ := Condition.search_iff.mp made
      exact ⟨name, rfl⟩
    · exact compared made
  | _ => cases takes

theorem key_of_rawWrites {s : Step} {column : Value} {text : String} {ws : List QueryWrite}
    (takes : s.rawColumn? = some column) (made : rawWrites column text = .ok ws) :
    ∀ w ∈ ws, w.key ∈ s.columns := by
  have shown : ∀ w ∈ ws, column.display = .ok w.key := by
    obtain ⟨key, rfl, rfl⟩ | ⟨_, key, shown, rfl⟩ := rawWrites_ok.mp made
    · exact List.forall_mem_singleton.mpr rfl
    · exact List.forall_mem_singleton.mpr shown
  intro w member
  have display := toOption_ok.mpr (shown w member)
  cases s with
  | filterRaw _ operator value | filterNot _ operator value =>
    cases takes
    simp [columns, condition?, display]
  | _ => cases takes

theorem key_of_equalities {es : List (Value × Value)} {wss : List (List QueryWrite)}
    (made : es.mapM (fun e => Condition.compare .eq e.1 e.2 >>= Condition.writes) = .ok wss) :
    ∀ w ∈ wss.flatten, w.key ∈ (filterMatch (.map es)).columns := by
  intro w member
  obtain ⟨ws, present, member⟩ := List.mem_flatten.mp member
  obtain ⟨e, entry, made⟩ := mapM_ok_mem made ws present
  obtain ⟨c, compared, written⟩ := bind_ok.mp made
  obtain ⟨_, name, named, _, ⟨no_list, _⟩ | ⟨_, rfl⟩⟩ := Condition.compare_ok compared
  · cases no_list
  simp only [Condition.writes, bind_ok, pure_ok] at written
  obtain ⟨⟨key, value⟩, rendered, rfl⟩ := written
  obtain rfl := Condition.key_of_column? rfl rendered
  have column : key ∈ (filterMatch (.map es)).columns :=
    List.mem_filterMap.mpr ⟨e, entry, by rw [named]; rfl⟩
  rw [List.mem_singleton.mp member]
  split
  · exact column
  · exact column

/-! ### Writes at a conjunction -/

section
variable {s : Step} {ws : List QueryWrite} {scope : Option String}

/-- What a list of writes does at the key of a conjunction: nothing, or extending it once. -/
def Gathers (scope : Option String) (s : Step) (ws : List QueryWrite) : Prop :=
  (s.conjunct? scope = none ∧ ∀ w ∈ ws, w.key ≠ conjunctionIn scope) ∨
    ∃ content, s.conjunct? scope = some (.ok content) ∧
      ws = [.extend (conjunctionIn scope) ("(" ++ content ++ ")")]

theorem scopedKey_ne_conjunction {name : String} (plain : '.' ∉ name.toList)
    (other : name ≠ "and") (scope' : Option String) :
    scopedKey scope' name ≠ conjunctionIn scope := by
  intro same
  exact other (scopedKey_inj plain (by decide) same).2

theorem conjunct?_of_other {v : Value} {c : Condition} (read : v.toCondition = .ok c)
    (other : ∀ cs, c ≠ .and cs) : (filterBy v).conjunct? scope = none := by
  simp only [conjunct?, read]
  cases scope with
  | none =>
    cases c with
    | and cs => exact absurd rfl (other cs)
    | _ => rfl
  | some table => rfl

/-- A condition given in any form is written at its own key. -/
theorem gathers_of_filterBy {v : Value} {c : Condition} {key value : String}
    (read : v.toCondition = .ok c) (rendered : c.param = .ok (key, value))
    (grouped : c.groupKey? = some key)
    (negated : scope.isSome → (filterBy v).negatedGroup? ≠ some (conjunctionIn scope)) :
    Gathers scope (filterBy v)
      [if key = Request.conjunctionKey then .extend key value else .set key value] := by
  cases c with
  | and cs =>
    simp only [Condition.param, bind_ok, pure_ok, Prod.mk.injEq] at rendered
    obtain ⟨group, made, rfl, rfl⟩ := rendered
    cases scope with
    | none =>
      obtain ⟨content, encoded, rfl⟩ := Condition.group_content made
      refine Or.inr ⟨content, ?_, rfl⟩
      simp only [conjunct?, read, encoded]
    | some table =>
      refine Or.inl ⟨rfl, List.forall_mem_singleton.mpr fun same => ?_⟩
      have same : scopedKey none "and" = scopedKey (some table) "and" := same
      cases (scopedKey_inj (by decide) (by decide) same).1
  | or cs =>
    cases grouped
    refine Or.inl ⟨conjunct?_of_other read (by simp), List.forall_mem_singleton.mpr ?_⟩
    change scopedKey none "or" ≠ _
    exact scopedKey_ne_conjunction (by decide) (by decide) none
  | not c =>
    have group_key : (filterBy v).negatedGroup? = some key := by
      simp only [negatedGroup?, read, grouped]
    obtain ⟨inner, _, dotted⟩ := Option.map_eq_some_iff.mp grouped
    have apart : key ≠ Request.conjunctionKey := by
      rintro rfl
      have := congrArg String.toList dotted
      simp [Request.conjunctionKey] at this
    refine Or.inl ⟨conjunct?_of_other read (by simp), List.forall_mem_singleton.mpr ?_⟩
    rw [if_neg apart]
    cases scope with
    | none => exact apart
    | some table => exact fun same => negated rfl (same ▸ group_key)
  | _ => cases grouped

theorem gathers_of_condition {c : Condition} (takes : s.condition? = some (.ok c))
    (written : c.writes = .ok ws) (columns : conjunctionIn scope ∉ s.columns)
    (negated : scope.isSome → s.negatedGroup? ≠ some (conjunctionIn scope)) :
    Gathers scope s ws := by
  simp only [Condition.writes, bind_ok, pure_ok] at written
  obtain ⟨⟨key, value⟩, rendered, rfl⟩ := written
  rcases Condition.param_key rendered with column | group
  · have away : key ≠ conjunctionIn scope := by
      rintro rfl
      exact columns (by simp [Step.columns, takes, column])
    refine Or.inl ⟨?_, List.forall_mem_singleton.mpr ?_⟩
    · cases s with
      | filterBy v =>
        refine conjunct?_of_other (Option.some.inj takes) fun cs same => ?_
        subst same
        cases column
      | allOf conditions table => cases takes
      | _ => rfl
    · by_cases conjunction : key = Request.conjunctionKey
      · rw [if_pos conjunction]
        exact away
      · rw [if_neg conjunction]
        exact away
  · by_cases free : ∃ v, s = .filterBy v
    · obtain ⟨v, rfl⟩ := free
      exact gathers_of_filterBy (Option.some.inj takes) rendered group negated
    · obtain ⟨column, tested⟩ := column_of_named takes fun v same => free ⟨v, same⟩
      rw [Condition.groupKey?_of_column? c tested] at group
      cases group

theorem conjunct?_of_no_filter (other : s.isFilter = false) : s.conjunct? scope = none := by
  cases s with
  | allOf conditions table => cases other
  | filterBy v => cases other
  | _ => rfl

/-- Every step that succeeds either leaves a conjunction alone or adds its content to it. -/
theorem gathers (written : s.writes = .ok ws) (columns : conjunctionIn scope ∉ s.columns)
    (negated : scope.isSome → s.negatedGroup? ≠ some (conjunctionIn scope)) :
    Gathers scope s ws := by
  cases writing_of_writes written with
  | condition takes made => exact gathers_of_condition takes made columns negated
  | raw takes made =>
    have none_here : s.conjunct? scope = none := by
      cases s with
      | filterRaw column operator value | filterNot column operator value => rfl
      | _ => cases takes
    exact Or.inl ⟨none_here, fun w member same =>
      columns (same ▸ key_of_rawWrites takes made w member)⟩
  | equalities made =>
    exact Or.inl ⟨rfl, fun w member same => columns (same ▸ key_of_equalities made w member)⟩
  | @conjunction conditions table group scope' grouped within =>
    obtain ⟨content, given, rfl⟩ := Request.groupOf_content grouped
    by_cases here : scope' = scope
    · subst here
      refine Or.inr ⟨content, ?_, rfl⟩
      simp only [conjunct?, within, Except.toOption, if_true, given]
    · refine Or.inl ⟨?_, List.forall_mem_singleton.mpr fun same => ?_⟩
      · simp only [conjunct?, within, Except.toOption, Option.some.injEq, if_neg here]
      · exact here (scopedKey_inj (by decide) (by decide) same).1
  | shape other shapes =>
    refine Or.inl ⟨conjunct?_of_no_filter other, fun w member => ?_⟩
    obtain ⟨_, scope', name, named, same⟩ := shapes w member
    rw [same]
    have plain : ∀ n ∈ shapeNames, '.' ∉ n.toList ∧ n ≠ "and" := by decide
    obtain ⟨undotted, apart⟩ := plain name named
    exact scopedKey_ne_conjunction undotted apart scope'

end

/-! ### Runs -/

section
variable {r r' : Request} {s : Step} {scope : Option String}

theorem apply_gathers (done : s.apply r = .ok r') (columns : conjunctionIn scope ∉ s.columns)
    (negated : scope.isSome → s.negatedGroup? ≠ some (conjunctionIn scope)) :
    (s.conjunct? scope = none ∧
      r'.query.get? (conjunctionIn scope) = r.query.get? (conjunctionIn scope)) ∨
    ∃ content, s.conjunct? scope = some (.ok content) ∧
      r'.query.get? (conjunctionIn scope) =
        some (joinGroups (r.query.get? (conjunctionIn scope)) ("(" ++ content ++ ")")) := by
  obtain ⟨ws, written, after⟩ := apply_query done
  rw [after]
  rcases gathers written columns negated with ⟨none_here, apart⟩ | ⟨content, given, rfl⟩
  · exact Or.inl ⟨none_here, QueryWrite.get?_run_other apart⟩
  · refine Or.inr ⟨content, given, ?_⟩
    exact (Query.get?_replace r.query _ _ _).trans (if_pos rfl)

/-- A run adds the contents of its steps, one by one, to the group that is there. -/
theorem advanceAll_gathers (steps : List Step)
    (columns : ∀ s ∈ succeeded r steps, conjunctionIn scope ∉ s.columns)
    (negated : scope.isSome →
      ∀ s ∈ succeeded r steps, s.negatedGroup? ≠ some (conjunctionIn scope)) :
    ∃ contents : List String, (succeeded r steps).filterMap (conjunct? scope) = contents.map .ok ∧
      (advanceAll r steps).query.get? (conjunctionIn scope) =
        contents.foldl (fun group content => some (joinGroups group ("(" ++ content ++ ")")))
          (r.query.get? (conjunctionIn scope)) := by
  -- The group to start from is arbitrary: behind the first step it is no longer empty.
  induction steps generalizing r with
  | nil => exact ⟨[], rfl, rfl⟩
  | cons s steps ih =>
    rw [advanceAll_cons]
    cases outcome : s.apply r with
    | error fault =>
      rw [succeeded_cons_of_error outcome] at columns negated ⊢
      rw [advance_of_error outcome]
      exact ih columns negated
    | ok next =>
      rw [succeeded_cons_of_ok outcome] at columns negated ⊢
      rw [advance_of_ok outcome]
      obtain ⟨columns_here, columns_later⟩ := List.forall_mem_cons.mp columns
      obtain ⟨contents, collected, held⟩ := ih columns_later
        fun given => (List.forall_mem_cons.mp (negated given)).2
      rcases apply_gathers outcome columns_here
        fun given => (List.forall_mem_cons.mp (negated given)).1 with
        ⟨none_here, kept⟩ | ⟨content, here, extended⟩
      · refine ⟨contents, ?_, held.trans (by rw [kept])⟩
        rw [List.filterMap_cons_none none_here, collected]
      · refine ⟨content :: contents, ?_, held.trans (by rw [extended, List.foldl_cons])⟩
        rw [List.filterMap_cons_some here, collected, List.map_cons]

end

theorem foldl_joinGroups (contents : List String) :
    contents.foldl (fun group content => some (joinGroups group ("(" ++ content ++ ")"))) none =
      gathered contents := by
  induction contents using List.reverseRecOn with
  | nil => rfl
  | append_singleton contents content ih =>
    rw [List.foldl_append, ih, gathered_concat]
    rfl

/-- The conjunction of a table, or that of the relation, holds the contents of the steps that
succeeded, in their order. -/
theorem conjunction_of_run {client : Client} {relation : Value} {r : Request}
    (started : client.request relation = .ok r) (steps : List Step) (scope : Option String)
    (columns : ∀ s ∈ succeeded r steps, conjunctionIn scope ∉ s.columns)
    (negated : scope.isSome →
      ∀ s ∈ succeeded r steps, s.negatedGroup? ≠ some (conjunctionIn scope)) :
    ∃ contents : List String, (succeeded r steps).filterMap (conjunct? scope) = contents.map .ok ∧
      (advanceAll r steps).getQuery (.text (conjunctionIn scope)) =
        ((gathered contents).map Value.text).getD .null := by
  obtain ⟨contents, collected, held⟩ := advanceAll_gathers steps columns negated
  refine ⟨contents, collected, ?_⟩
  rw [Client.query_of_request started, Query.get?_empty, foldl_joinGroups] at held
  rw [Request.getQuery, held]

theorem conjunction_of_run_interleaved :
    let client : Client := ⟨"http://h", "k", "public", [], "/rest/v1"⟩
    let steps : List Step :=
      [.allOf (.text "a.eq.1,b.is.null") .null, .filterCompare .eq (.text "c") (.int 2),
        .allOf (.list []) .null, .limit (.int 3) .null, .allOf (.text "d.gt.4") (.text "t"),
        .filterBy (.tuple [.text "and", .list [.text "e.lt.5",
          .tuple [.text "not", .tuple [.text "eq", .text "f", .int 6]]]])]
    (advanceAll (client.seed "u") steps).getQuery (.text "and") =
        .text "(a.eq.1,b.is.null,e.lt.5,not.f.eq.6)" ∧
      (advanceAll (client.seed "u") steps).getQuery (.text "t.and") = .text "(d.gt.4)" := by
  intro client steps
  have ran : succeeded (client.seed "u") steps = steps := rfl
  have started : client.request (.text "u") = .ok (client.seed "u") := rfl
  have read {contents texts : List String}
      (same : contents.map (Except.ok : String → Outcome String) = texts.map Except.ok) :
      contents = texts := (List.map_inj_right fun _ _ same => Except.ok.inj same).mp same
  obtain ⟨contents, collected, held⟩ := conjunction_of_run started steps none
    (by rw [ran]; decide) nofun
  obtain ⟨contents', collected', held'⟩ := conjunction_of_run started steps (some "t")
    (by rw [ran]; decide) fun _ => by rw [ran]; decide
  rw [ran] at collected collected'
  have root : contents = ["a.eq.1,b.is.null", "", "e.lt.5,not.f.eq.6"] := read collected.symm
  have table : contents' = ["d.gt.4"] := read collected'.symm
  subst root table
  exact ⟨held, held'⟩

end Step

end RestQuery
