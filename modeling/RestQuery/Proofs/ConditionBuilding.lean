import RestQuery.Proofs.Outcome
import RestQuery.Condition.Coercion

/-!
# Conditions as their constructors build them

What each constructor checks, read off its success, and the conditions that can be built at all.
-/

namespace RestQuery

namespace Condition

variable {op : Operator} {column value : Value} {c : Condition}

theorem columnName_ok {operation name : String} :
    columnName operation column = .ok name ↔ column = .text name ∧ name ≠ "" := by
  unfold columnName
  split
  · split
    · rename_i empty
      simp only [reduceCtorEq, false_iff, not_and]
      exact fun same filled => filled (Value.text.inj same ▸ empty)
    · rename_i filled
      simp only [Except.ok.injEq, Value.text.injEq, iff_self_and]
      rintro rfl
      exact filled
  · rename_i other
    simp only [reduceCtorEq, false_iff, not_and]
    exact fun same => absurd same (other name)

theorem isPlain_iff : op.isPlain = true ↔
    op.isLogical = false ∧ op.isQuantifier = false ∧ op ≠ .between := by
  simp [Operator.isPlain, and_assoc]

theorem compare_iff : compare op column value = .ok c ↔
    op.isPlain = true ∧ ∃ name, column = .text name ∧ name ≠ "" ∧
      ((op = .member ∧ ∃ xs, value.listItems? = some xs ∧ c = comparison .member name (.tuple xs)) ∨
        (op ≠ .member ∧ c = comparison op name value)) := by
  simp only [compare, refuse_ok, bind_ok, columnName_ok, Bool.or_eq_true, not_or, Bool.not_eq_true,
    isPlain_iff, and_assoc]
  refine and_congr_right fun _ => and_congr_right fun _ => and_congr_right fun _ =>
    exists_congr fun name => and_congr_right fun _ => and_congr_right fun _ => ?_
  by_cases among : op = .member
  · rw [if_pos among]
    cases items : value.listItems? with
    | none => simp [among, throw_ok]
    | some xs => simp [among, pure_ok, @eq_comm _ c]
  · simp [among, pure_ok, @eq_comm _ c]

theorem compare_ok (made : compare op column value = .ok c) :
    op.isPlain = true ∧ ∃ name, column = .text name ∧ name ≠ "" ∧
      ((op = .member ∧ ∃ xs, c = comparison .member name (.tuple xs)) ∨
        (op ≠ .member ∧ c = comparison op name value)) := by
  obtain ⟨plain, name, named, filled, ⟨among, xs, _, same⟩ | other⟩ := compare_iff.mp made
  · exact ⟨plain, name, named, filled, Or.inl ⟨among, xs, same⟩⟩
  · exact ⟨plain, name, named, filled, Or.inr other⟩

theorem compare_eq {name : String} (filled : name ≠ "") (v : Value) :
    compare .eq (.text name) v = .ok (comparison .eq name v) :=
  compare_iff.mpr ⟨rfl, name, rfl, filled, Or.inr ⟨by decide, rfl⟩⟩

theorem quantify_iff {values quantifier : Value} :
    quantify op column values quantifier = .ok c ↔
      op.isQuantifiable = true ∧ ∃ name q xs, column = .text name ∧ name ≠ "" ∧
        Operator.parse quantifier = .ok q ∧ q.isQuantifier = true ∧ values.listItems? = some xs ∧
          c = quantified op name xs q := by
  simp only [quantify, refuse_ok, bind_ok, columnName_ok, Bool.not_eq_true', Bool.not_eq_false]
  refine and_congr_right fun _ => ?_
  constructor
  · rintro ⟨q, known, quantifies, name, ⟨named, filled⟩, made⟩
    cases items : values.listItems? with
    | none =>
      rw [items] at made
      exact (throw_ok.mp made).elim
    | some xs =>
      rw [items] at made
      exact ⟨name, q, xs, named, filled, known, quantifies, rfl, (pure_ok.mp made).symm⟩
  · rintro ⟨name, q, xs, named, filled, known, quantifies, items, rfl⟩
    exact ⟨q, known, quantifies, name, ⟨named, filled⟩, by rw [items]; rfl⟩

theorem quantify_ok {values quantifier : Value}
    (made : quantify op column values quantifier = .ok c) :
    op.isQuantifiable = true ∧ ∃ name q xs, column = .text name ∧ name ≠ "" ∧
      q.isQuantifier = true ∧ values.listItems? = some xs ∧ c = quantified op name xs q := by
  obtain ⟨quantifiable, name, q, xs, named, filled, _, parts⟩ := quantify_iff.mp made
  exact ⟨quantifiable, name, q, xs, named, filled, parts⟩

theorem search_iff {query language : Value} : search op column query language = .ok c ↔
    op.isTextSearch = true ∧ ∃ name, column = .text name ∧ name ≠ "" ∧
      c = textSearch op name query language := by
  simp only [search, refuse_ok, bind_ok, pure_ok, columnName_ok, Bool.not_eq_true',
    Bool.not_eq_false, and_assoc, @eq_comm _ c]

/-- The conditions that the constructors build. -/
inductive Built : Condition → Prop where
  | comparison (op column value : Value) {c : Condition}
      (made : mkComparison op column value = .ok c) : Built c
  | quantified (op column values quantifier : Value) {c : Condition}
      (made : mkQuantified op column values quantifier = .ok c) : Built c
  | textSearch (op column query language : Value) {c : Condition}
      (made : mkTextSearch op column query language = .ok c) : Built c
  | between (column low high : Value) {c : Condition}
      (made : mkBetween column low high = .ok c) : Built c
  | not {c : Condition} (built : Built c) : Built (.not c)
  | and {cs : List Condition} (built : ∀ c ∈ cs, Built c) : Built (.and cs)
  | or {cs : List Condition} (built : ∀ c ∈ cs, Built c) : Built (.or cs)
  | raw (v : Value) : Built (.raw v)

/-- What is known of the parts of a condition that was built. -/
def Parts : Condition → Prop
  | .comparison op column v =>
    op.isPlain = true ∧ column ≠ "" ∧ (op = .member → ∃ xs, v = .tuple xs)
  | .quantified op column _ q =>
    op.isQuantifiable = true ∧ column ≠ "" ∧ q.isQuantifier = true
  | .textSearch op column _ _ => op.isTextSearch = true ∧ column ≠ ""
  | .between column _ _ => column ≠ ""
  | .not c => Built c
  | .and cs | .or cs => ∀ c ∈ cs, Built c
  | .raw _ => True

theorem Built.parts (built : Built c) : c.Parts := by
  cases built with
  | comparison _ _ _ made =>
    simp only [mkComparison, bind_ok] at made
    obtain ⟨op, _, made⟩ := made
    obtain ⟨plain, name, _, filled, ⟨rfl, xs, rfl⟩ | ⟨other, rfl⟩⟩ := compare_ok made
    · exact ⟨plain, filled, fun _ => ⟨xs, rfl⟩⟩
    · exact ⟨plain, filled, fun same => absurd same other⟩
  | quantified _ _ _ _ made =>
    simp only [mkQuantified, bind_ok] at made
    obtain ⟨op, _, made⟩ := made
    obtain ⟨quantifiable, name, q, xs, _, filled, quantifies, _, rfl⟩ := quantify_ok made
    exact ⟨quantifiable, filled, quantifies⟩
  | textSearch _ _ _ _ made =>
    simp only [mkTextSearch, bind_ok] at made
    obtain ⟨op, _, made⟩ := made
    obtain ⟨searches, name, _, filled, rfl⟩ := search_iff.mp made
    exact ⟨searches, filled⟩
  | between _ _ _ made =>
    simp only [mkBetween, bind_ok, pure_ok] at made
    obtain ⟨name, named, rfl⟩ := made
    exact (columnName_ok.mp named).2
  | not built => exact built
  | and built => exact built
  | or built => exact built
  | raw v => trivial

end Condition

end RestQuery
