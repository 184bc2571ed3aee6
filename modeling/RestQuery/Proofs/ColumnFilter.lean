import RestQuery.Proofs.DistinctKeys
import RestQuery.Proofs.QueryEntries

/-!
# Filters on one column

A condition on a column overwrites what is stored under the column and touches nothing else. The
one exception is a column by the name of the conjunction: a filter on it is joined to what is there
as if both were groups, so that it does not overwrite and piles up when it is repeated.
-/

namespace RestQuery

open Text

/-! ### Operands -/

/-- A text of two characters or more that starts neither with a comma nor with a parenthesis. -/
def Leads (s : String) : Prop := ∃ a b rest, s.toList = a :: b :: rest ∧ a ≠ ',' ∧ a ≠ '('

namespace Leads

variable {s : String}

theorem append (leads : Leads s) (t : String) : Leads (s ++ t) := by
  obtain ⟨a, b, rest, chars, no_comma, no_open⟩ := leads
  exact ⟨a, b, rest ++ t.toList, by simp [chars], no_comma, no_open⟩

theorem ne_empty (leads : Leads s) : s ≠ "" := by
  rintro rfl
  obtain ⟨_, _, _, chars, _⟩ := leads
  cases chars

theorem ne_unit (leads : Leads s) : s ≠ "()" := by
  rintro rfl
  obtain ⟨_, _, _, chars, _, no_open⟩ := leads
  exact no_open (List.cons.inj chars).1.symm

end Leads

theorem Operator.leads_token (op : Operator) : Leads op.token := by
  cases op with
  | _ => exact ⟨_, _, _, rfl, by decide, by decide⟩

namespace Condition

theorem leads_of_test {c : Condition} {column separator text : String} {operand : Outcome String}
    (written : c.clause = .test column separator operand) (rendered : operand = .ok text) :
    Leads text := by
  cases c with
  | comparison op column v =>
    unfold clause clauseBy at written
    split at written
    · cases written
      obtain ⟨texts, _, rfl⟩ := by simpa only [bind_ok, pure_ok] using rendered
      have member : Leads "in.(" := ⟨_, _, _, rfl, by decide, by decide⟩
      exact (member.append _).append _
    · cases written
      obtain ⟨_, _, rfl⟩ := by simpa only [bind_ok, pure_ok] using rendered
      exact (op.leads_token.append _).append _
  | quantified op column vs q =>
    cases written
    obtain ⟨_, _, rfl⟩ := by simpa only [bind_ok, pure_ok] using rendered
    simp only [String.append_assoc]
    exact op.leads_token.append _
  | textSearch op column query language =>
    unfold clause clauseBy at written
    split at written
    · cases written
      obtain ⟨_, _, _, _, rfl⟩ := by simpa only [bind_ok, pure_ok] using rendered
      simp only [String.append_assoc]
      exact op.leads_token.append _
    · cases written
      obtain ⟨_, _, rfl⟩ := by simpa only [bind_ok, pure_ok] using rendered
      exact (op.leads_token.append _).append _
  | between column low high =>
    cases written
    obtain ⟨_, _, _, _, rfl⟩ := by simpa only [bind_ok, pure_ok] using rendered
    have bounds : Leads "between.[" := ⟨_, _, _, rfl, by decide, by decide⟩
    simp only [String.append_assoc]
    exact bounds.append _
  | not _ | and _ | or _ => cases written
  | raw v =>
    unfold clause clauseBy at written
    split at written
    · cases written
    · cases written

theorem leads_operand : ∀ {c : Condition} {column text : String}, c.column? = some column →
    c.operand = .ok text → Leads text
  | not c, _, _, _, rendered => by
    obtain ⟨inner, _, same⟩ := bind_ok.mp rendered
    obtain rfl := pure_ok.mp same
    have negation : Leads "not." := ⟨_, _, _, rfl, by decide, by decide⟩
    exact negation.append inner
  | comparison _ _ _, _, _, tested, rendered | quantified _ _ _ _, _, _, tested, rendered
  | textSearch _ _ _ _, _, _, tested, rendered | between _ _ _, _, _, tested, rendered =>
    leads_of_test (clause_of_column tested nofun) rendered

end Condition

/-! ### Joining at the key of the conjunction -/

theorem joinGroups_unfilled {group : String} (unfilled : group = "" ∨ group = "()")
    (text : String) : joinGroups (some group) text = text :=
  if_pos unfilled

namespace Leads

variable {text : String}

theorem toList_joinGroups (leads : Leads text) {group : String}
    (filled : ¬ (group = "" ∨ group = "()")) :
    (joinGroups (some group) text).toList =
      group.toList.dropLast ++ ',' :: text.toList.drop 1 := by
  unfold joinGroups
  simp only [if_neg filled, if_neg leads.ne_unit]
  simp

theorem joinGroups_ne (leads : Leads text) (group : String) :
    joinGroups (some group) text ≠ group := by
  by_cases unfilled : group = "" ∨ group = "()"
  · rw [joinGroups_unfilled unfilled]
    rintro rfl
    exact unfilled.elim leads.ne_empty leads.ne_unit
  · intro same
    have chars := leads.toList_joinGroups unfilled
    rw [same] at chars
    have lengths := congrArg List.length chars
    obtain ⟨a, b, rest, led, _⟩ := leads
    simp [led] at lengths
    omega

/-- Joined to a group, an operand stands alone only if the group is empty. -/
theorem joinGroups_eq_iff (leads : Leads text) {current : Option String} :
    joinGroups current text = text ↔
      current = none ∨ current = some "" ∨ current = some "()" := by
  cases current with
  | none => simp [joinGroups]
  | some group =>
    simp only [reduceCtorEq, false_or, Option.some.injEq]
    refine ⟨fun same => ?_, fun unfilled => joinGroups_unfilled unfilled text⟩
    by_contra filled
    have chars := leads.toList_joinGroups filled
    obtain ⟨a, b, rest, led, no_comma, _⟩ := leads
    rw [same, led, List.drop_succ_cons, List.drop_zero] at chars
    -- The comma either comes first, where the operand has none, or makes the text longer.
    cases before : group.toList.dropLast with
    | nil =>
      rw [before] at chars
      exact no_comma (List.cons.inj chars).1
    | cons x xs =>
      have lengths := congrArg List.length chars
      simp [before] at lengths
      omega

end Leads

namespace Request

variable {r : Request} {c : Condition} {column text : String}

theorem get?_setQuery (r : Request) (key text k : String) :
    (r.setQuery key text).query.get? k = if k = key then some text else r.query.get? k :=
  Query.get?_replace r.query key text k

theorem filterBy_column (tested : c.column? = some column) (rendered : c.operand = .ok text) :
    r.filterBy (.condition c) = .ok (r.setQuery column
      (if column = "and" then joinGroups (r.query.get? "and") text else text)) := by
  have taken : Value.toCondition (.condition c) = .ok c := by simp [Value.toCondition]
  rw [filterBy, taken]
  show r.restrict c = _
  rw [restrict, Condition.param_of_column tested rendered]
  show Except.ok (if column = "and" then r.extendGroup column text else r.setQuery column text) = _
  split
  · subst column
    rfl
  · rfl

/-- A condition on a column that has a text is stored, in place of what was under the column and
with no effect on anything else. Only under the name of the conjunction is it joined to what was
there. -/
theorem filterBy_overwrites_iff (distinct : r.query.Distinct) (tested : c.column? = some column)
    (rendered : c.operand = .ok text) :
    ∃ r', r.filterBy (.condition c) = .ok r' ∧
      r' = { r with query := r'.query } ∧
      r'.query.Distinct ∧
      r'.query.keys = (if column ∈ r.query.keys then r.query.keys else r.query.keys ++ [column]) ∧
      (∀ key ≠ column, r'.query.get? key = r.query.get? key) ∧
      r'.query.get? column =
        some (if column = "and" then joinGroups (r.query.get? "and") text else text) ∧
      (r'.query.get? column = some text ↔ column = "and" →
        r.query.get? "and" = none ∨ r.query.get? "and" = some "" ∨
          r.query.get? "and" = some "()") ∧
      (r'.filterBy (.condition c) = .ok r' ↔ column ≠ "and") := by
  have leads := Condition.leads_operand tested rendered
  refine ⟨_, filterBy_column tested rendered, rfl, distinct.replace _ _,
    Query.keys_put column _ (fun _ => _) r.query.entries,
    fun key other => (get?_setQuery r column _ key).trans (if_neg other),
    (get?_setQuery r column _ column).trans (if_pos rfl), ?_, ?_⟩
  · rw [get?_setQuery, if_pos rfl]
    by_cases conjunction : column = "and"
    · simp [conjunction, leads.joinGroups_eq_iff]
    · simp [conjunction]
  · rw [filterBy_column tested rendered, Except.ok.injEq]
    constructor
    · rintro same rfl
      have kept := congrArg (fun r' : Request => r'.query.get? "and") same
      simp only [get?_setQuery, if_true, Option.some.injEq] at kept
      exact leads.joinGroups_ne _ kept
    · intro plain
      simp only [if_neg plain]
      exact congrArg (fun q => { r with query := q }) (Query.replace_replace r.query column text)

theorem filterBy_overwrites_iff_negated :
    let r : Request := { url := .text "http://h/t", query := ⟨[("a", "is.null"), ("or", "(b.eq.1)"),
      ("limit", "5")]⟩ }
    let c : Condition := .not (.not (.comparison .member "or" (.tuple [.int 1, .null])))
    r.query.Distinct ∧ c.column? = some "or" ∧ c.operand = .ok "not.not.in.(1,null)" ∧
      ∃ r', r.filterBy (.condition c) = .ok r' ∧ r'.query.keys = ["a", "or", "limit"] ∧
        r'.query.get? "or" = some "not.not.in.(1,null)" ∧ r'.query.get? "limit" = some "5" ∧
        r'.filterBy (.condition c) = .ok r' := by
  intro r c
  have distinct : r.query.Distinct := by
    show ["a", "or", "limit"].Nodup
    decide
  have rendered : c.operand = .ok "not.not.in.(1,null)" := rfl
  obtain ⟨r', done, _, _, keys, others, _, stored, again⟩ :=
    filterBy_overwrites_iff distinct (show c.column? = some "or" from rfl) rendered
  refine ⟨distinct, rfl, rendered, r', done, keys.trans rfl, stored.mpr ?_, ?_, again.mpr ?_⟩
  · decide
  · exact (others "limit" (by decide)).trans rfl
  · decide

/-- A filter on a column by the name of the conjunction, repeated, runs into itself. -/
theorem conjunction_column_not_overwritten :
    let client : Client := ⟨"http://h", "k", "public", [], "/rest/v1"⟩
    let c : Condition := .comparison .eq "and" (.int 1)
    c.column? = some "and" ∧ c.operand = .ok "eq.1" ∧ (client.seed "t").query.Distinct ∧
      ∃ r' r'', (client.seed "t").filterBy (.condition c) = .ok r' ∧
        r'.filterBy (.condition c) = .ok r'' ∧ r'.query.entries = [("and", "eq.1")] ∧
        r''.query.entries = [("and", "eq.,q.1")] :=
  ⟨rfl, rfl, List.nodup_nil, _, _, rfl, rfl, rfl, rfl⟩

end Request

end RestQuery
