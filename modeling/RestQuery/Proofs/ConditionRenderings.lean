import RestQuery.Proofs.WritableValues

/-!
# The renderings of a condition

A condition is written as one text inside a group and as a key and a value at the top of a query.
`renderings_of_core` says how the two and the operand follow from what stands under the negations:
they differ in where the negations go, and in nothing else.
-/

namespace RestQuery

open Text

theorem mapM_ok_of_forall {α β : Type} {f : α → Outcome β} {xs : List α}
    (each : ∀ x ∈ xs, ∃ y, f x = .ok y) : ∃ ys, xs.mapM f = .ok ys := by
  induction xs with
  | nil => exact ⟨[], rfl⟩
  | cons x xs ih =>
    obtain ⟨⟨y, first⟩, others⟩ := List.forall_mem_cons.mp each
    obtain ⟨ys, rest⟩ := ih others
    exact ⟨y :: ys, mapM_cons_ok.mpr ⟨y, ys, first, rest, rfl⟩⟩

/-- A value with a text as an operand. -/
def Value.Renders (v : Value) : Prop := ∃ s, v.operandText = .ok s

theorem Value.Renders.legible {v : Value} (renders : v.Renders) : v.legible = true :=
  legible_of_writable ((writes_operandText v).isOk_iff.mp renders)

theorem Value.operandTexts_of_renders {vs : List Value} (renders : ∀ v ∈ vs, v.Renders) :
    ∃ texts, operandTexts vs = .ok texts := by
  rw [operandTexts_eq_mapM]
  exact mapM_ok_of_forall renders

namespace Condition

/-- How many negations stand around the core of a condition. -/
def layers : Condition → Nat
  | not c => c.layers + 1
  | _ => 0

/-- The text of some negations. -/
def negations : Nat → String
  | 0 => ""
  | n + 1 => "not." ++ negations n

/-- The name and the members of a group. -/
def members? : Condition → Option (String × List Condition)
  | and cs => some ("and", cs)
  | or cs => some ("or", cs)
  | _ => none

/-- The conditions all of whose values have a text, and in which what the caller encoded is one. -/
inductive Rendered : Condition → Prop where
  | comparison {op : Operator} {column : String} {v : Value} (value : v.Renders) :
      Rendered (.comparison op column v)
  | quantified {op q : Operator} {column : String} {vs : List Value}
      (values : ∀ v ∈ vs, v.Renders) : Rendered (.quantified op column vs q)
  | search {op : Operator} {column tongue text : String} {query language : Value}
      (given : language.truth = true) (named : language.display = .ok tongue)
      (sought : query.display = .ok text) : Rendered (.textSearch op column query language)
  | plainSearch {op : Operator} {column : String} {query language : Value}
      (missing : language.truth = false) (sought : query.Renders) :
      Rendered (.textSearch op column query language)
  | between {column : String} {low high : Value} (from_low : low.Renders)
      (to_high : high.Renders) : Rendered (.between column low high)
  | not {c : Condition} (part : Rendered c) : Rendered (.not c)
  | and {cs : List Condition} (parts : ∀ c ∈ cs, Rendered c) : Rendered (.and cs)
  | or {cs : List Condition} (parts : ∀ c ∈ cs, Rendered c) : Rendered (.or cs)
  | raw (s : String) : Rendered (.raw (.text s))

/-! ### Under the negations -/

theorem core_of_positive {c : Condition} (positive : ∀ c', c ≠ not c') : c.core = c := by
  cases c with
  | not c => exact absurd rfl (positive c)
  | _ => rfl

theorem layers_of_positive {c : Condition} (positive : ∀ c', c ≠ not c') : c.layers = 0 := by
  cases c with
  | not c => exact absurd rfl (positive c)
  | _ => rfl

theorem core_positive (c c' : Condition) : c.core ≠ not c' := by
  induction c using core.induct with
  | case1 c ih => exact ih
  | case2 c positive =>
    rw [core_of_positive positive]
    exact positive c'

theorem column?_core (c : Condition) : c.core.column? = c.column? := by
  induction c using core.induct with
  | case1 c ih => exact ih
  | case2 c positive => rw [core_of_positive positive]

theorem encode_not_of_ok {c : Condition} {s : String} (written : c.encode = .ok s) :
    (not c).encode = .ok ("not." ++ s) := by
  cases c with
  | raw v =>
    -- Only what is a text has an encoding of its own, and that is shown as it is.
    cases v with
    | text t =>
      cases written
      rfl
    | _ => cases written
  | _ =>
    refine (encode_not ?_).mpr ⟨s, written, rfl⟩
    exact fun _ => nofun

theorem encode_of_core {c : Condition} {s : String} (written : c.core.encode = .ok s) :
    c.encode = .ok (negations c.layers ++ s) := by
  induction c using core.induct with
  | case1 c ih => rw [encode_not_of_ok (ih written), layers, negations, String.append_assoc]
  | case2 c positive =>
    rw [core_of_positive positive] at written
    rw [layers_of_positive positive, negations, String.empty_append, written]

theorem operand_of_core {c : Condition} {text : String} (written : c.core.operand = .ok text) :
    c.operand = .ok (negations c.layers ++ text) := by
  induction c using core.induct with
  | case1 c ih =>
    rw [operand, ih written, layers, negations, String.append_assoc]
    rfl
  | case2 c positive =>
    rw [core_of_positive positive] at written
    rw [layers_of_positive positive, negations, String.empty_append, written]

theorem operand_error_of_core {c : Condition} {fault : Fault}
    (failed : c.core.operand = .error fault) : c.operand = .error fault := by
  induction c using core.induct with
  | case1 c ih =>
    rw [operand, ih failed]
    rfl
  | case2 c positive => rwa [core_of_positive positive] at failed

theorem param_error_of_core {c : Condition} {fault : Fault}
    (failed : c.core.param = .error fault) : c.param = .error fault := by
  induction c using core.induct with
  | case1 c ih =>
    rw [param, ih failed]
    rfl
  | case2 c positive => rwa [core_of_positive positive] at failed

/-! ### Groups -/

theorem eq_of_members? {c : Condition} {name : String} {cs : List Condition}
    (grouped : c.members? = some (name, cs)) :
    (name = "and" ∧ c = and cs) ∨ (name = "or" ∧ c = or cs) := by
  cases c with
  | and cs =>
    cases grouped
    exact Or.inl ⟨rfl, rfl⟩
  | or cs =>
    cases grouped
    exact Or.inr ⟨rfl, rfl⟩
  | _ => cases grouped

/-- A negated group is negated in its key. -/
theorem param_of_group {c : Condition} {name value : String} {cs : List Condition}
    (grouped : c.core.members? = some (name, cs))
    (written : Clause.group (clauses cs) = .ok value) :
    c.param = .ok (negations c.layers ++ name, value) := by
  induction c using core.induct with
  | case1 c ih =>
    rw [param, ih grouped, layers, negations, String.append_assoc]
    obtain ⟨-, core⟩ | ⟨-, core⟩ := eq_of_members? grouped
    · rw [show c.core = and cs from core]
      rfl
    · rw [show c.core = or cs from core]
      rfl
  | case2 c positive =>
    rw [core_of_positive positive] at grouped
    rw [layers_of_positive positive, negations, String.empty_append]
    obtain ⟨rfl, rfl⟩ | ⟨rfl, rfl⟩ := eq_of_members? grouped
    · rw [param, written]
      rfl
    · rw [param, written]
      rfl

theorem encode_of_members {c : Condition} {name : String} {cs : List Condition}
    {texts : List String} (grouped : c.members? = some (name, cs))
    (written : cs.mapM encode = .ok texts) :
    c.encode = .ok (name ++ ("(" ++ commaJoin texts ++ ")")) := by
  obtain ⟨rfl, rfl⟩ | ⟨rfl, rfl⟩ := eq_of_members? grouped
  · refine encode_and.mpr ⟨texts, written, ?_⟩
    rw [← String.append_assoc, ← String.append_assoc]
    rfl
  · refine encode_or.mpr ⟨texts, written, ?_⟩
    rw [← String.append_assoc, ← String.append_assoc]
    rfl

theorem operand_of_members {c : Condition} {name : String} {cs : List Condition}
    (grouped : c.members? = some (name, cs)) (legible : c.legible = true) :
    c.operand = .error (.invalidArgument "operand" "condition" "a column-scoped condition"
      (.condition c)) := by
  have shown : (Value.condition c).legible = true := legible
  rw [← Fault.argument_of_legible shown]
  obtain ⟨-, rfl⟩ | ⟨-, rfl⟩ := eq_of_members? grouped
  · rfl
  · rfl

/-! ### Conditions with a text -/

namespace Rendered

variable {c : Condition}

theorem core (rendered : c.Rendered) : c.core.Rendered := by
  induction c using core.induct with
  | case1 c ih =>
    cases rendered with
    | not part => exact ih part
  | case2 c positive => rwa [core_of_positive positive]

/-- What has a text can be shown in a message as well. -/
theorem legible (rendered : c.Rendered) : c.legible = true := by
  induction rendered with
  | comparison value => exact value.legible
  | quantified values => exact Value.allLegible_iff.mpr fun v member => (values v member).legible
  | search _ named sought =>
    exact Bool.and_eq_true_iff.mpr
      ⟨Value.legible_of_showable ((Value.writes_display _).isOk_iff.mp ⟨_, sought⟩),
        Value.legible_of_showable ((Value.writes_display _).isOk_iff.mp ⟨_, named⟩)⟩
  | plainSearch missing sought =>
    exact Bool.and_eq_true_iff.mpr ⟨sought.legible, Value.legible_of_truth missing⟩
  | between from_low to_high => exact Bool.and_eq_true_iff.mpr ⟨from_low.legible, to_high.legible⟩
  | not _ ih => exact ih
  | and _ ih | or _ ih => exact allLegible_iff.mpr ih
  | raw s => rfl

/-- A comparison with values that have texts has an operand, with a list of them or with one. -/
theorem comparison_operand {op : Operator} {column : String} {v : Value} (value : v.Renders) :
    ∃ text, (Condition.comparison op column v).operand = .ok text := by
  obtain ⟨s, written⟩ := value
  by_cases among : op = .member
  · subst among
    cases v with
    | tuple xs =>
      -- The text of a tuple puts its items between brackets, the operand between parentheses.
      obtain ⟨texts, each, -⟩ := bind_ok.mp written
      have each : Value.operandTexts xs = .ok texts := each
      rw [operand_of_test (clause_among column xs), each]
      exact ⟨_, rfl⟩
    | _ => exact ⟨_, bind_ok.mpr ⟨s, written, rfl⟩⟩
  · rw [operand_of_test (clause_comparison among column v), written]
    exact ⟨_, rfl⟩

theorem operand_ok {column : String} (rendered : c.Rendered) (tested : c.column? = some column)
    (positive : ∀ c', c ≠ .not c') : ∃ text, c.operand = .ok text := by
  cases rendered with
  | comparison value => exact comparison_operand value
  | quantified values =>
    obtain ⟨texts, written⟩ := Value.operandTexts_of_renders values
    rw [operand_of_test (clause_quantified _ _ _ _), written]
    exact ⟨_, rfl⟩
  | search given named sought =>
    rw [operand_of_test (clause_search given _ _ _), named, sought]
    exact ⟨_, rfl⟩
  | plainSearch missing sought =>
    obtain ⟨text, sought⟩ := sought
    rw [operand_of_test (clause_search_plain missing _ _ _), sought]
    exact ⟨_, rfl⟩
  | between from_low to_high =>
    obtain ⟨low, from_low⟩ := from_low
    obtain ⟨high, to_high⟩ := to_high
    rw [operand_of_test (clause_between _ _ _), from_low, to_high]
    exact ⟨_, rfl⟩
  | not _ => exact absurd rfl (positive _)
  | and _ | or _ | raw _ => cases tested

theorem encode_ok_of_column {column : String} (rendered : c.Rendered)
    (tested : c.column? = some column) (positive : ∀ c', c ≠ .not c') :
    ∃ text, c.operand = .ok text ∧ c.encode = .ok (column ++ c.separator ++ text) := by
  obtain ⟨text, written⟩ := rendered.operand_ok tested positive
  exact ⟨text, written, (encode_test (clause_of_column tested positive)).mpr ⟨text, written, rfl⟩⟩

theorem encodes_of_column {column : String} (rendered : c.Rendered)
    (tested : c.column? = some column) (positive : ∀ c', c ≠ .not c') :
    ∃ s, c.encode = .ok s := by
  obtain ⟨text, -, written⟩ := rendered.encode_ok_of_column tested positive
  exact ⟨_, written⟩

theorem encode_ok (rendered : c.Rendered) : ∃ s, c.encode = .ok s := by
  induction rendered with
  | not _ ih =>
    obtain ⟨s, written⟩ := ih
    exact ⟨_, encode_not_of_ok written⟩
  | and _ ih =>
    obtain ⟨texts, written⟩ := mapM_ok_of_forall ih
    exact ⟨_, encode_and.mpr ⟨texts, written, rfl⟩⟩
  | or _ ih =>
    obtain ⟨texts, written⟩ := mapM_ok_of_forall ih
    exact ⟨_, encode_or.mpr ⟨texts, written, rfl⟩⟩
  | raw s => exact ⟨s, rfl⟩
  | comparison value => exact (comparison value).encodes_of_column rfl fun _ => nofun
  | quantified values => exact (quantified values).encodes_of_column rfl fun _ => nofun
  | search given named sought =>
    exact (search given named sought).encodes_of_column rfl fun _ => nofun
  | plainSearch missing sought =>
    exact (plainSearch missing sought).encodes_of_column rfl fun _ => nofun
  | between from_low to_high =>
    exact (between from_low to_high).encodes_of_column rfl fun _ => nofun

theorem members_ok {name : String} {cs : List Condition} (rendered : c.Rendered)
    (grouped : c.members? = some (name, cs)) : ∃ texts, cs.mapM encode = .ok texts := by
  obtain ⟨-, rfl⟩ | ⟨-, rfl⟩ := eq_of_members? grouped
  · cases rendered with
    | and parts => exact mapM_ok_of_forall fun c member => (parts c member).encode_ok
  · cases rendered with
    | or parts => exact mapM_ok_of_forall fun c member => (parts c member).encode_ok

/-- What stands under the negations is a group, a test of a column or an encoded text. -/
theorem core_cases (rendered : c.Rendered) : (∃ name cs, c.core.members? = some (name, cs)) ∨
    (∃ column, c.core.column? = some column) ∨ ∃ s, c.core = .raw (.text s) := by
  have core := rendered.core
  have positive := core_positive c
  cases same : c.core with
  | and cs => exact Or.inl ⟨"and", cs, rfl⟩
  | or cs => exact Or.inl ⟨"or", cs, rfl⟩
  | raw v =>
    rw [same] at core
    cases core with
    | raw s => exact Or.inr (Or.inr ⟨s, rfl⟩)
  | not c' => exact absurd same (positive c')
  | _ => exact Or.inr (Or.inl ⟨_, rfl⟩)

end Rendered

/-- The nested text, the query parameter and the operand of a condition follow from what stands
under its negations. A group is negated in its key, a test of a column in its operand, and only a
text encoded by the caller has no parameter. -/
theorem renderings_of_core {c : Condition} (rendered : c.Rendered) :
    ((∃ name cs, c.core.members? = some (name, cs)) ∨ (∃ column, c.core.column? = some column) ∨
      ∃ s, c.core = .raw (.text s)) ∧
    (∀ name cs, c.core.members? = some (name, cs) → ∃ texts, cs.mapM encode = .ok texts ∧
      c.param = .ok (negations c.layers ++ name, "(" ++ commaJoin texts ++ ")") ∧
      c.encode = .ok ((negations c.layers ++ name) ++ ("(" ++ commaJoin texts ++ ")")) ∧
      c.operand = .error (.invalidArgument "operand" "condition" "a column-scoped condition"
        (.condition c.core))) ∧
    (∀ column, c.core.column? = some column → ∃ text, c.core.operand = .ok text ∧
      c.operand = .ok (negations c.layers ++ text) ∧
      c.param = .ok (column, negations c.layers ++ text) ∧
      c.encode = .ok (negations c.layers ++ column ++ c.core.separator ++ text)) ∧
    ∀ s, c.core = .raw (.text s) →
      c.param = .error (.invalidArgument "to_param" "condition"
        "a column-scoped or logical condition" (.condition c.core)) ∧
      c.operand = .error (.invalidArgument "operand" "condition" "a column-scoped condition"
        (.condition c.core)) ∧
      c.encode = .ok (negations c.layers ++ s) := by
  refine ⟨rendered.core_cases, fun name cs grouped => ?_, fun column tested => ?_, fun s own => ?_⟩
  · obtain ⟨texts, written⟩ := rendered.core.members_ok grouped
    refine ⟨texts, written, ?_, ?_, ?_⟩
    · exact param_of_group grouped (group_clauses_ok.mpr ⟨texts, written, rfl⟩)
    · rw [String.append_assoc]
      exact encode_of_core (encode_of_members grouped written)
    · exact operand_error_of_core (operand_of_members grouped rendered.core.legible)
  · obtain ⟨text, operand, encoded⟩ :=
      rendered.core.encode_ok_of_column tested (core_positive c)
    have negated := operand_of_core operand
    refine ⟨text, operand, negated, ?_, ?_⟩
    · exact param_of_column ((column?_core c).symm.trans tested) negated
    · rw [String.append_assoc] at encoded
      rw [String.append_assoc, String.append_assoc]
      exact encode_of_core encoded
  · refine ⟨param_error_of_core ?_, operand_error_of_core ?_, encode_of_core ?_⟩
    · rw [own]
      rfl
    · rw [own]
      rfl
    · rw [own]
      rfl

/-- A group negated twice with an encoded text negated in it, a comparison with any of two values,
negated, and the encoded text on its own. -/
theorem renderings_of_core_negated :
    (not (not (or [comparison .gt "age" (.int 18), not (raw (.text "a.eq.1"))]))).param =
        .ok ("not.not.or", "(age.gt.18,not.a.eq.1)") ∧
      (not (quantified .eq "tag" [.int 1, .null] .any)).param =
        .ok ("tag", "not.eq(any).\x7b1,null\x7d") ∧
      (not (quantified .eq "tag" [.int 1, .null] .any)).encode =
        .ok "not.tag=eq(any).\x7b1,null\x7d" ∧
      (not (raw (.text "a.eq.1"))).encode = .ok "not.a.eq.1" := by
  have own : (raw (.text "a.eq.1")).not.Rendered := .not (.raw _)
  have adult : (comparison .gt "age" (.int 18)).Rendered := .comparison ⟨"18", rfl⟩
  have group : (or [comparison .gt "age" (.int 18), not (raw (.text "a.eq.1"))]).not.not.Rendered :=
    .not (.not (.or (List.forall_mem_cons.mpr ⟨adult, List.forall_mem_singleton.mpr own⟩)))
  have tagged : (quantified .eq "tag" [.int 1, .null] .any).not.Rendered :=
    .not (.quantified (List.forall_mem_cons.mpr
      ⟨⟨"1", rfl⟩, List.forall_mem_singleton.mpr ⟨"null", rfl⟩⟩))
  obtain ⟨texts, each, grouped, -⟩ := (renderings_of_core group).2.1 "or" _ rfl
  obtain ⟨text, operand, -, keyed, nested⟩ := (renderings_of_core tagged).2.2.1 "tag" rfl
  cases each
  cases operand
  exact ⟨grouped, keyed, nested, ((renderings_of_core own).2.2.2 "a.eq.1" rfl).2.2⟩

end Condition

end RestQuery
