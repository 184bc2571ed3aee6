import RestQuery.Proofs.Outcome
import RestQuery.Condition.Rendering

/-!
# Encoded conditions, shape by shape

When each shape of a condition can be encoded, and to which text, and under which key a condition
stands in the query. Later proofs use these equations in place of clauses.
-/

namespace RestQuery

open Text

namespace Value

theorem operandTexts_eq_mapM (vs : List Value) : operandTexts vs = vs.mapM operandText := by
  induction vs with
  | nil => rfl
  | cons v vs ih =>
    rw [List.mapM_cons, ← ih]
    rfl

end Value

namespace Clause

/-- Pieces can be joined when each of them has an encoding. -/
theorem joinable_pieces_ok {cs : List Clause} (index : Nat) {texts : List String} :
    pieces cs >>= joinable index = .ok texts ↔ cs.mapM encode = .ok texts := by
  induction cs generalizing index texts with
  | nil => simp [pieces, joinable, bind, Except.bind, pure, Except.pure]
  | cons c cs ih =>
    rw [mapM_cons_ok]
    cases c with
    | foreign kind shown =>
      simp only [pieces, bind_ok, pure_ok, encode, reduceCtorEq, false_and, exists_false,
        iff_false, not_exists, not_and]
      rintro _ ⟨_, _, rfl⟩
      simp [joinable]
    | test _ _ _ | not _ | and _ | or _ | raw _ =>
      simp only [pieces, encode, bind_ok, pure_ok]
      constructor
      · rintro ⟨_, ⟨text, first, rest, later, rfl⟩, joined⟩
        obtain ⟨others, joined, same⟩ := bind_ok.mp joined
        exact ⟨text, others, first, (ih _).mp (bind_ok.mpr ⟨rest, later, joined⟩), (pure_ok.mp same).symm⟩
      · rintro ⟨text, others, first, later, rfl⟩
        obtain ⟨rest, later, joined⟩ := bind_ok.mp ((ih (index + 1)).mpr later)
        exact ⟨_, ⟨text, first, rest, later, rfl⟩, bind_ok.mpr ⟨others, joined, rfl⟩⟩

/-- What is made of joined clauses, be it a group or a longer text. -/
theorem joined_ok (shape : List String → String) {cs : List Clause} {s : String} :
    (do return shape (← joinable 0 (← pieces cs)) : Outcome String) = .ok s ↔
      ∃ texts, cs.mapM encode = .ok texts ∧ s = shape texts := by
  simp only [bind_ok, pure_ok]
  constructor
  · rintro ⟨parts, written, texts, joined, rfl⟩
    exact ⟨texts, (joinable_pieces_ok 0).mp (bind_ok.mpr ⟨parts, written, joined⟩), rfl⟩
  · rintro ⟨texts, encoded, rfl⟩
    obtain ⟨parts, written, joined⟩ := bind_ok.mp ((joinable_pieces_ok 0).mpr encoded)
    exact ⟨parts, written, texts, joined, rfl⟩

end Clause

namespace Condition

theorem clauses_eq_map (cs : List Condition) : clauses cs = cs.map clause := by
  induction cs with
  | nil => rfl
  | cons c cs ih => rw [List.map_cons, ← ih]; rfl

theorem mapM_encode_clauses (cs : List Condition) :
    (clauses cs).mapM Clause.encode = cs.mapM encode := by
  rw [clauses_eq_map, List.mapM_map]
  rfl

theorem group_clauses_ok {cs : List Condition} {s : String} :
    Clause.group (clauses cs) = .ok s ↔
      ∃ texts, cs.mapM encode = .ok texts ∧ s = "(" ++ commaJoin texts ++ ")" := by
  rw [Clause.group, ← mapM_encode_clauses]
  exact Clause.joined_ok fun texts => "(" ++ commaJoin texts ++ ")"

theorem encode_and {cs : List Condition} {s : String} :
    (and cs).encode = .ok s ↔
      ∃ texts, cs.mapM encode = .ok texts ∧ s = "and(" ++ commaJoin texts ++ ")" := by
  rw [← mapM_encode_clauses]
  exact Clause.joined_ok fun texts => "and(" ++ commaJoin texts ++ ")"

theorem encode_or {cs : List Condition} {s : String} :
    (or cs).encode = .ok s ↔
      ∃ texts, cs.mapM encode = .ok texts ∧ s = "or(" ++ commaJoin texts ++ ")" := by
  rw [← mapM_encode_clauses]
  exact Clause.joined_ok fun texts => "or(" ++ commaJoin texts ++ ")"

/-- A condition that was not encoded by the caller shows its encoding. -/
theorem encode_not {c : Condition} (own : ∀ v, c ≠ raw v) {s : String} :
    (not c).encode = .ok s ↔ ∃ text, c.encode = .ok text ∧ s = "not." ++ text := by
  have shown : c.clause.shown = c.encode := by
    cases c with
    | raw v => exact absurd rfl (own v)
    | comparison op column v => unfold encode clause clauseBy; split <;> rfl
    | textSearch op column query language => unfold encode clause clauseBy; split <;> rfl
    | _ => rfl
  change (do return "not." ++ (← c.clause.shown) : Outcome String) = .ok s ↔ _
  simp only [shown, bind_ok, pure_ok, @eq_comm _ s]

/-! ### Conditions on one column -/

theorem encode_test {c : Condition} {column separator s : String} {operand : Outcome String}
    (written : c.clause = .test column separator operand) :
    c.encode = .ok s ↔ ∃ text, operand = .ok text ∧ s = column ++ separator ++ text := by
  simp only [encode, written, Clause.encode, Clause.shown, bind_ok, pure_ok, @eq_comm _ s]

theorem clause_comparison {op : Operator} (other : op ≠ .member) (column : String) (v : Value) :
    (comparison op column v).clause =
      .test column "." (do return op.token ++ "." ++ (← v.operandText)) := by
  unfold clause clauseBy
  split
  · exact absurd rfl other
  · rfl

theorem clause_among (column : String) (xs : List Value) :
    (comparison .member column (.tuple xs)).clause =
      .test column "." (do return "in.(" ++ commaJoin (← Value.operandTexts xs) ++ ")") := rfl

theorem clause_quantified (op q : Operator) (column : String) (vs : List Value) :
    (quantified op column vs q).clause = .test column "=" (do
      let values := commaJoin (← Value.operandTexts vs)
      return op.token ++ "(" ++ q.token ++ ").\x7b" ++ values ++ "\x7d") := rfl

theorem clause_search {language : Value} (given : language.truth = true) (op : Operator)
    (column : String) (query : Value) :
    (textSearch op column query language).clause = .test column "=" (do
      let language ← language.display
      return op.token ++ "(" ++ language ++ ")." ++ (← query.display)) := by
  unfold clause clauseBy
  exact if_pos given

theorem clause_search_plain {language : Value} (missing : language.truth = false) (op : Operator)
    (column : String) (query : Value) :
    (textSearch op column query language).clause =
      .test column "." (do return op.token ++ "." ++ (← query.operandText)) := by
  unfold clause clauseBy
  exact if_neg (by simp [missing])

theorem clause_between (column : String) (low high : Value) :
    (between column low high).clause = .test column "." (do
      let low ← low.operandText
      return "between.[" ++ low ++ "," ++ (← high.operandText) ++ "]") := rfl

/-! ### Query keys -/

/-- The column that a condition tests, under any number of negations. -/
def column? : Condition → Option String
  | comparison _ column _ | quantified _ column _ _ | textSearch _ column _ _
  | between column _ _ => some column
  | not c => c.column?
  | and _ | or _ | raw _ => none

/-- The key of a group under any number of negations. -/
def groupKey? : Condition → Option String
  | and _ => some "and"
  | or _ => some "or"
  | not c => c.groupKey?.map ("not." ++ ·)
  | _ => none

theorem operand_of_test {c : Condition} {column separator : String} {operand : Outcome String}
    (written : c.clause = .test column separator operand) : c.operand = operand := by
  cases c with
  | not c => cases written
  | _ =>
    unfold Condition.operand
    rw [written]

/-- What stands between the column of a condition and its operand. -/
def separator : Condition → String
  | quantified _ _ _ _ => "="
  | textSearch _ _ _ language => if language.truth then "=" else "."
  | _ => "."

/-- A condition on a column that is not a negation is a test of it. -/
theorem clause_of_column {c : Condition} {column : String} (tested : c.column? = some column)
    (positive : ∀ c', c ≠ not c') : c.clause = .test column c.separator c.operand := by
  obtain ⟨operand, written⟩ : ∃ operand, c.clause = .test column c.separator operand := by
    cases c with
    | comparison op name v =>
      cases tested
      unfold clause clauseBy
      split
      · exact ⟨_, rfl⟩
      · exact ⟨_, rfl⟩
    | textSearch op name query language =>
      cases tested
      cases given : language.truth with
      | true =>
        rw [clause_search given, separator, if_pos given]
        exact ⟨_, rfl⟩
      | false =>
        rw [clause_search_plain given, separator, if_neg (by simp [given])]
        exact ⟨_, rfl⟩
    | quantified _ _ _ _ | between _ _ _ =>
      cases tested
      exact ⟨_, rfl⟩
    | not c => exact absurd rfl (positive c)
    | _ => cases tested
  rw [operand_of_test written]
  exact written

theorem core_of_column? {column : String} : ∀ c : Condition, c.column? = some column →
    (∀ cs, c.core ≠ and cs) ∧ ∀ cs, c.core ≠ or cs
  | not c, tested => core_of_column? c tested
  | comparison _ _ _, _ | quantified _ _ _ _, _ | textSearch _ _ _ _, _ | between _ _ _, _ =>
    ⟨fun _ => nofun, fun _ => nofun⟩

theorem core_of_groupKey? : ∀ (c : Condition) {key : String}, c.groupKey? = some key →
    ∃ cs, c.core = and cs ∨ c.core = or cs
  | not c => by
    intro grouped
    obtain ⟨inner, grouped, _⟩ := Option.map_eq_some_iff.mp grouped
    exact core_of_groupKey? c grouped
  | and cs => fun _ => ⟨cs, Or.inl rfl⟩
  | or cs => fun _ => ⟨cs, Or.inr rfl⟩
  | comparison _ _ _ | quantified _ _ _ _ | textSearch _ _ _ _ | between _ _ _ | raw _ => nofun

/-- The key of a condition is its column, or that of the group it negates. -/
theorem param_key : ∀ {c : Condition} {key value : String}, c.param = .ok (key, value) →
    c.column? = some key ∨ c.groupKey? = some key
  | not c, key, value, rendered => by
    simp only [param, bind_ok, pure_ok] at rendered
    obtain ⟨⟨innerKey, innerValue⟩, inner, same⟩ := rendered
    rcases param_key inner with column | group
    · obtain ⟨no_and, no_or⟩ := core_of_column? c column
      split at same
      · exact absurd ‹_› (no_and _)
      · exact absurd ‹_› (no_or _)
      · cases same
        exact Or.inl column
    · obtain ⟨cs, core | core⟩ := core_of_groupKey? c group
      · rw [core] at same
        cases same
        exact Or.inr (by simp [groupKey?, group])
      · rw [core] at same
        cases same
        exact Or.inr (by simp [groupKey?, group])
  | and _, _, _, rendered | or _, _, _, rendered => by
    simp only [param, bind_ok, pure_ok, Prod.mk.injEq] at rendered
    obtain ⟨_, _, rfl, _⟩ := rendered
    exact Or.inr rfl
  | comparison _ _ _, _, _, rendered | quantified _ _ _ _, _, _, rendered
  | textSearch _ _ _ _, _, _, rendered | between _ _ _, _, _, rendered => by
    simp only [param, bind_ok, pure_ok, Prod.mk.injEq] at rendered
    obtain ⟨_, _, rfl, _⟩ := rendered
    exact Or.inl rfl

theorem groupKey?_of_column? {column : String} : ∀ c : Condition, c.column? = some column →
    c.groupKey? = none
  | not c, tested => by
    rw [groupKey?, groupKey?_of_column? c tested]
    rfl
  | comparison _ _ _, _ | quantified _ _ _ _, _ | textSearch _ _ _ _, _ | between _ _ _, _ => rfl

theorem key_of_column? {c : Condition} {column key value : String}
    (tested : c.column? = some column) (rendered : c.param = .ok (key, value)) : key = column := by
  rcases param_key rendered with same | grouped
  · exact Option.some.inj (same.symm.trans tested)
  · rw [groupKey?_of_column? c tested] at grouped
    cases grouped

theorem param_of_column : ∀ {c : Condition} {column text : String}, c.column? = some column →
    c.operand = .ok text → c.param = .ok (column, text)
  | not c, column, text, tested, rendered => by
    obtain ⟨inner, written, same⟩ := bind_ok.mp rendered
    obtain rfl := pure_ok.mp same
    obtain ⟨no_and, no_or⟩ := core_of_column? c tested
    rw [param, param_of_column (c := c) tested written]
    show (pure _ : Outcome (String × String)) = _
    split
    · exact absurd ‹_› (no_and _)
    · exact absurd ‹_› (no_or _)
    · rfl
  | comparison _ _ _, _, _, tested, rendered | quantified _ _ _ _, _, _, tested, rendered
  | textSearch _ _ _ _, _, _, tested, rendered | between _ _ _, _, _, tested, rendered => by
    cases tested
    rw [param, rendered]
    rfl

end Condition

end RestQuery
