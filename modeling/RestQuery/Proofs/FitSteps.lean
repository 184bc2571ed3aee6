import RestQuery.Proofs.ContractFaults
import RestQuery.Proofs.StepWrites

/-!
# Steps that blame their caller

A step that fails blames its caller, unless it has to look up or to write something that cannot be
looked up or written. `Step.Fit` tells from the arguments whether it does.
-/

namespace RestQuery

open Text

/-- Of an operation that fits nothing goes wrong but what blames the caller. One that does not fit
fails in another way. -/
structure Judged {α : Type} (short fit : Prop) (x : Outcome α) : Prop where
  contained : fit → Contained short x
  escapes : ¬ fit → ∃ f, x = .error f ∧ f.isContractViolation = false

section Judged

variable {α β : Type} {short fit : Prop} {x : Outcome α}

theorem Contained.judged (contained : Contained short x) (holds : fit) : Judged short fit x :=
  ⟨fun _ => contained, fun unfit => absurd holds unfit⟩

/-- Nothing follows a check that fails. -/
theorem Contained.stop (contained : Contained short x) (refused : ∀ a, x ≠ .ok a)
    (f : α → Outcome β) : Contained short (x >>= f) := by
  cases x with
  | ok a => exact absurd rfl (refused a)
  | error fault =>
    rintro _ ⟨⟩
    exact contained fault rfl

/-- A check before an operation that is judged by what the check lets through. -/
theorem Contained.andThen {f : α → Outcome β} {fits : α → Prop} (first : Contained short x)
    (second : ∀ a, x = .ok a → Judged short (fits a) (f a)) :
    Judged short (∀ a, x = .ok a → fits a) (x >>= f) := by
  cases x with
  | ok a =>
    have judged := second a rfl
    refine ⟨fun holds => judged.contained (holds a rfl), fun unfit => judged.escapes fun holds => ?_⟩
    refine unfit ?_
    rintro _ ⟨⟩
    exact holds
  | error f =>
    exact (first.stop (fun _ => nofun) _).judged fun _ => nofun

theorem Writes.judged {able : Bool} (writes : Writes able x) : Judged short (able = true) x := by
  cases x with
  | ok a => exact (contained_ok a).judged writes
  | error f =>
    obtain ⟨unable, foreign⟩ := writes
    exact ⟨fun holds => absurd holds (by simp [unable]), fun _ => ⟨f, rfl, foreign⟩⟩

namespace Judged

theorem congr {fit' : Prop} (judged : Judged short fit x) (same : fit ↔ fit') :
    Judged short fit' x :=
  ⟨fun holds => judged.contained (same.mpr holds), fun unfit => judged.escapes (mt same.mp unfit)⟩

/-- An operation before a check. -/
theorem andThen {f : α → Outcome β} (first : Judged short fit x)
    (second : ∀ a, Contained short (f a)) : Judged short fit (x >>= f) := by
  refine ⟨fun holds => (first.contained holds).bind second, fun unfit => ?_⟩
  obtain ⟨fault, failed, foreign⟩ := first.escapes unfit
  exact ⟨fault, by rw [failed]; rfl, foreign⟩

theorem map (f : α → β) (judged : Judged short fit x) :
    Judged short fit (x >>= fun a => pure (f a)) :=
  judged.andThen fun a => contained_ok (f a)

theorem bind {f : α → Outcome β} {fits : α → Prop} (first : Judged short fit x)
    (second : ∀ a, x = .ok a → Judged short (fits a) (f a)) :
    Judged short (fit ∧ ∀ a, x = .ok a → fits a) (x >>= f) := by
  by_cases holds : fit
  · exact ((first.contained holds).andThen second).congr (and_iff_right holds).symm
  · refine ⟨fun both => absurd both.1 holds, fun _ => ?_⟩
    obtain ⟨fault, failed, foreign⟩ := first.escapes holds
    exact ⟨fault, by rw [failed]; rfl, foreign⟩

end Judged

/-! ### Writing -/

namespace Condition

theorem writes_shown_clause (c : Condition) : Writes c.writable c.clause.shown :=
  writes_shown Json.writes_printMap c

theorem writes_operand {c : Condition} {column : String} (tested : c.column? = some column)
    (positive : ∀ c', c ≠ not c') : Writes c.writable c.operand := by
  have shown := c.writes_shown_clause
  rw [clause_of_column tested positive] at shown
  exact Writes.map_iff.mp shown

/-- A condition can be a parameter if it can be written, unless its caller encoded it. -/
theorem writes_param : ∀ {c : Condition}, (∀ v, c.core ≠ raw v) → Writes c.writable c.param
  | not c, own => (writes_param (c := c) own).map _
  | and cs, _ | or cs, _ => (writes_group_clauses cs).map _
  | raw v, own => absurd rfl (own v)
  | comparison _ _ _, _ | quantified _ _ _ _, _ | textSearch _ _ _ _, _ | between _ _ _, _ => by
    refine (writes_operand rfl ?_).map _
    exact nofun

theorem writable_of_core {v : Value} :
    ∀ {c : Condition}, c.core = raw v → c.writable = v.showable
  | not c, encoded => writable_of_core (c := c) encoded
  | raw _, encoded => by
    cases encoded
    rfl
  | comparison _ _ _, encoded | quantified _ _ _ _, encoded | textSearch _ _ _ _, encoded
  | between _ _ _, encoded | and _, encoded | or _, encoded => by cases encoded

/-- What the caller encoded is no parameter, which is said if it can be shown. -/
theorem judged_param_raw {v : Value} :
    ∀ {c : Condition}, c.core = raw v → Judged short (v.legible = true) c.param
  | not c, encoded => (judged_param_raw (c := c) encoded).map _
  | raw _, encoded => by
    cases encoded
    refine ⟨fun legible => contained_argument fun _ => legible, fun long => ?_⟩
    exact ⟨.tooLongToWrite, congrArg Except.error (if_neg long), rfl⟩
  | comparison _ _ _, encoded | quantified _ _ _ _, encoded | textSearch _ _ _ _, encoded
  | between _ _ _, encoded | and _, encoded | or _, encoded => by cases encoded

theorem judged_param {c : Condition} :
    Judged short ((∃ v, c.core = raw v ∧ v.legible = true) ∨ c.writable = true) c.param := by
  by_cases encoded : ∃ v, c.core = raw v
  · obtain ⟨v, encoded⟩ := encoded
    refine (judged_param_raw encoded).congr ⟨fun legible => Or.inl ⟨v, encoded, legible⟩, ?_⟩
    rintro (⟨_, same, legible⟩ | able)
    · cases encoded.symm.trans same
      exact legible
    · rw [writable_of_core encoded] at able
      exact Value.legible_of_showable able
  · refine (writes_param (not_exists.mp encoded)).judged.congr (or_iff_right ?_).symm
    rintro ⟨v, same, _⟩
    exact encoded ⟨v, same⟩

end Condition

namespace Value

/-- A name that is missing or has a text. -/
def nameable (v : Value) : Bool := !v.truth || v.showable

theorem writes_if_given {v : Value} (given : String → α) (missing : α) :
    Writes v.nameable (if v.truth then do return given (← v.display) else .ok missing) := by
  unfold nameable
  cases v.truth with
  | false => rfl
  | true => exact v.writes_display.map given

end Value

namespace Request

theorem writes_keyWithin (name : String) (table : Value) :
    Writes table.nameable (keyWithin name table) :=
  Value.writes_if_given _ _

theorem writes_conflictTarget (columns : Value) :
    Writes columns.nameable (conflictTarget columns) :=
  Value.writes_if_given _ _

theorem judged_restrict {r : Request} {c : Condition} :
    Judged short ((∃ v, c.core = .raw v ∧ v.legible = true) ∨ c.writable = true) (r.restrict c) :=
  Condition.judged_param.map _

end Request

theorem MediaType.writes_coerce (v : Value) : Writes v.showable (coerce v) := by
  unfold coerce
  split
  · rfl
  · exact v.writes_display.map _

/-! ### Steps -/

namespace Value

/-- A value that can name a column. -/
def isColumn : Value → Bool
  | .text s => s != ""
  | _ => false

theorem isColumn_iff (operation : String) {column : Value} :
    column.isColumn = true ↔ ∃ name, Condition.columnName operation column = .ok name := by
  cases column with
  | text s => simp [isColumn, Condition.columnName_ok]
  | _ => simp [isColumn, Condition.columnName_ok]

/-- Operands that can be written, up to the first that is for no column. -/
def entriesWritable : List (Value × Value) → Bool
  | [] => true
  | (column, v) :: es => !column.isColumn || (v.writable && entriesWritable es)

end Value

/-- Conditions given as a list can be joined to a group, if they are conditions at all. -/
def Value.GroupFit (conditions : Value) : Prop :=
  ∀ cs, conditions.sequenceItems?.isSome → conditions.toConditions "group" = .ok cs →
    Condition.allWritable cs

/-- What a step looks up or writes apart from its condition can be looked up or written. Nothing is
looked up or written after a fault of the caller. -/
def Step.PartsFit : Step → Prop
  | insert _ onConflict returning count =>
    (Returning.coerce "insert" returning).isOk → (Count.coerce "insert" count).isOk →
      onConflict.nameable
  | upsert _ onConflict returning count =>
    (Returning.coerce "upsert" returning).isOk → (Count.coerce "upsert" count).isOk →
      onConflict.nameable
  | filterRaw column operator value =>
    (Operator.expression "filter" operator).isOk → value.writable ∧ column.showable
  | filterNot column operator value =>
    (Operator.expression "not" operator).isOk → value.writable ∧ column.showable
  | allOf conditions table => conditions.GroupFit ∧
      ((Request.groupOf Request.conjunctionKey conditions).isOk → table.nameable)
  | anyOf conditions table => conditions.GroupFit ∧
      ((Request.groupOf Request.disjunctionKey conditions).isOk → table.nameable)
  | filterMatch (.map es) => Value.entriesWritable es
  | filterCollection _ _ value => value.listItems?.isSome || value.isMap → value.writable
  | filterSearch _ _ kind _ => kind.isKey
  | acceptNamed mediaType => mediaType.showable
  | order column _ _ table => column.isColumn → table.nameable
  | limit (.int n) table => table.nameable ∧ (Value.int n).legible
  | range first last table => ∀ start count, Request.window first last = .ok (start, count) →
      table.nameable ∧ start.legible ∧ count.legible
  | explain _ format => format.isKey ∨ ∃ xs, format = .set xs
  | _ => True

/-- A condition that was not encoded by the caller can be written, and so can everything else. One
that was encoded is refused, and can be shown. -/
def Step.Fit (s : Step) : Prop :=
  (∀ c, s.condition? = some (.ok c) → (∃ v, c.core = .raw v ∧ v.legible) ∨ c.writable) ∧ s.PartsFit

/-- The values that a step is given. -/
def Step.arguments : Step → List Value
  | select columns count returning => [columns, count, returning]
  | insert data onConflict returning count | upsert data onConflict returning count =>
    [data, onConflict, returning, count]
  | update data returning count => [data, returning, count]
  | delete returning count => [returning, count]
  | filterBy condition => [condition]
  | filterRaw column operator value | filterNot column operator value => [column, operator, value]
  | allOf conditions table | anyOf conditions table => [conditions, table]
  | filterMatch equalities => [equalities]
  | filterCompare _ column value | filterIs column value | filterCollection _ column value =>
    [column, value]
  | filterPatterns _ _ column patterns => [column, patterns]
  | filterSearch column query kind language => [column, query, kind, language]
  | chooseSchema name => [name]
  | acceptNamed mediaType => [mediaType]
  | order column ascending nullsFirst table => [column, ascending, nullsFirst, table]
  | limit count table => [count, table]
  | range first last table => [first, last, table]
  | explain _ format => [format]
  | returnRows columns => [columns]
  | single | maybeSingle | accept _ | rollback => []

/-- No whole number in what a step is given is too long to be written. -/
def Step.legible (s : Step) : Bool := s.arguments.all Value.legible

namespace Request

variable {r : Request}

theorem judged_group {key : String} {conditions : Value} (shows : conditions.Shows short) :
    Judged short conditions.GroupFit (groupOf key conditions) := by
  have joined (cs : List Condition) :
      Judged short (Condition.allWritable cs = true) (Clause.group (Condition.clauses cs)) :=
    (Condition.writes_group_clauses cs).judged
  unfold groupOf
  split
  · refine (contained_ok _).judged fun cs _ read => ?_
    cases read
  · split
    · next given =>
      have read := conditions.contained_toConditions "group" shows
      refine (read.andThen fun cs _ => joined cs).congr ?_
      simp only [Value.GroupFit, given, forall_const]
    · next other => exact (contained_argument shows).judged fun cs given => absurd given other

theorem writes_replaceQuery (column : Value) (text : String) :
    Writes column.showable (r.replaceQuery column (.text text)) := by
  unfold replaceQuery putQuery
  show Writes _ (match column with
    | .text key => pure { r with query := r.query.replace key text }
    | key => do return { r with query := r.query.append (← key.display) text })
  split
  · rfl
  · exact (Value.writes_display _).map _

/-- An operand stored under a column that is taken as it is. -/
theorem judged_raw {operation : String} {operator column value : Value}
    (shows : operator.Shows short) (shape : String → String → String) :
    Judged short ((Operator.expression operation operator).isOk → value.writable ∧ column.showable)
      (do
        let expression ← Operator.expression operation operator
        r.replaceQuery column (.text (shape expression (← value.operandText)))) := by
  have stored (expression : String) := value.writes_operandText.bind fun text =>
    writes_replaceQuery (r := r) column (shape expression text)
  refine ((Operator.contained_expression operation shows).andThen fun expression _ =>
    (stored expression).judged).congr ?_
  simp only [isOk_iff, forall_exists_index, Bool.and_eq_true]

theorem writes_bounds {first last start count : Value}
    (framed : window first last = .ok (start, count)) :
    Writes start.legible (boundText start) ∧ Writes count.legible (boundText count) := by
  unfold window at framed
  split at framed
  · cases framed
    exact ⟨Json.writes_digits _, Json.writes_digits _⟩
  · cases framed
    exact ⟨rfl, rfl⟩
  · cases framed

theorem filterCompare_of_column {column v : Value} (named : column.isColumn = true) :
    Writes v.writable (r.filterCompare .eq column v) := by
  cases column with
  | text name =>
    have filled : name ≠ "" := by simpa [Value.isColumn] using named
    have own (encoded : Value) : (Condition.comparison .eq name v).core ≠ .raw encoded := by
      intro same
      cases same
    rw [filterCompare, Condition.compare_eq filled v]
    exact (Condition.writes_param own).map _
  | _ => cases named

theorem judged_filterMatch {es : List (Value × Value)} (shows : (Value.map es).Shows short) :
    Judged short (Value.entriesWritable es) (r.filterMatch (.map es)) := by
  simp only [filterMatch]
  induction es generalizing r with
  | nil => exact (contained_ok r).judged rfl
  | cons e es ih =>
    obtain ⟨column, v⟩ := e
    obtain ⟨name, operand, others⟩ := shows.entry
    rw [List.foldlM_cons]
    cases named : column.isColumn with
    | false =>
      -- The run ends here, so the operands that follow need not be writable.
      have refused (c : Condition) : Condition.compare .eq column v ≠ .ok c := by
        intro compared
        obtain ⟨_, name, rfl, filled, _⟩ := Condition.compare_ok compared
        exact filled (by simpa [Value.isColumn] using named)
      rw [filterCompare, bind_assoc]
      exact ((Condition.contained_compare .eq name operand).stop refused _).judged
        (by simp [Value.entriesWritable, named])
    | true =>
      have written := filterCompare_of_column (r := r) (v := v) named
      refine (written.judged.bind fun r' _ => ih others).congr ?_
      simp only [Value.entriesWritable, named, Bool.not_true, Bool.false_or, Bool.and_eq_true]
      refine and_congr_right fun able => ?_
      obtain ⟨r', done⟩ := written.isOk_iff.mpr able
      exact ⟨fun later => later r' done, fun later _ _ => later⟩

theorem judged_searchOperator {kind : Value} (shows : kind.Shows short) :
    Judged short kind.isKey (searchOperator kind) := by
  unfold searchOperator
  split
  · exact (contained_ok _).judged rfl
  · exact (contained_ok _).judged rfl
  · exact (contained_ok _).judged rfl
  · exact (contained_ok _).judged rfl
  · split
    · next fit => exact (contained_argument shows).judged fit
    · next unfit => exact ⟨fun fit => absurd fit unfit, fun _ => ⟨_, rfl, rfl⟩⟩

theorem judged_planFormat (format : Value) :
    Judged short (format.isKey ∨ ∃ xs, format = .set xs) (planFormat format) := by
  unfold planFormat
  split
  · exact (contained_ok _).judged (Or.inl rfl)
  · next xs => exact (contained_ok _).judged (Or.inr ⟨xs, rfl⟩)
  · next other =>
    split
    · next fit => exact (contained_ok _).judged (Or.inl fit)
    · next unfit =>
      have neither : ¬ (format.isKey ∨ ∃ xs, format = .set xs) := by
        rintro (fit | ⟨xs, same⟩)
        · exact unfit fit
        · exact other xs same
      exact ⟨fun fit => absurd fit neither, fun _ => ⟨_, rfl, rfl⟩⟩

/-- Rows posted under a conflict target that is shown once the other arguments are checked. -/
theorem judged_posted {operation : String} {data onConflict returning count : Value}
    (given : data.Shows short) (asked : returning.Shows short) (counted : count.Shows short)
    (preferences : Returning → Count → Option String → List String) :
    Judged short
      ((Returning.coerce operation returning).isOk → (Count.coerce operation count).isOk →
        onConflict.nameable)
      (do
        let returning ← Returning.coerce operation returning
        let count ← Count.coerce operation count
        let target ← conflictTarget onConflict
        r.post operation data (preferences returning count target) target) := by
  have posted (returning : Returning) (count : Count) :=
    (writes_conflictTarget onConflict).judged.andThen fun target =>
      contained_post r operation given (preferences returning count target) target
  refine ((Returning.contained_coerce operation asked).andThen fun returning _ =>
    (Count.contained_coerce operation counted).andThen fun count _ =>
      posted returning count).congr ?_
  simp only [isOk_iff, forall_exists_index]

/-- A group of conditions under a key that is shown once the group is made. -/
theorem judged_grouped {key : String} {conditions table : Value} (shows : conditions.Shows short)
    (store : String → String → Request) :
    Judged short (conditions.GroupFit ∧ ((groupOf key conditions).isOk → table.nameable))
      (do
        let group ← groupOf key conditions
        return store (← keyWithin key table) group) := by
  refine ((judged_group shows).bind fun _ _ => (writes_keyWithin key table).judged.map _).congr ?_
  simp only [isOk_iff, forall_exists_index]

theorem judged_order {column table : Value} (named : column.Shows short)
    (ascending nullsFirst : Value) :
    Judged short (column.isColumn → table.nameable)
      (r.order column ascending nullsFirst table) := by
  refine ((Condition.contained_columnName "order" named).andThen fun _ _ =>
    (writes_keyWithin "order" table).judged.map _).congr ?_
  simp only [Value.isColumn_iff "order", forall_exists_index]

theorem judged_limit (n : Int) (table : Value) :
    Judged short (table.nameable ∧ (Value.int n).legible) (r.limit (.int n) table) :=
  ((writes_keyWithin "limit" table).bind fun _ =>
    (Json.writes_digits n).map _).judged.congr Bool.and_eq_true_iff

theorem judged_range {first last table : Value} (starts : first.Shows short)
    (ends : last.Shows short) :
    Judged short
      (∀ start count, window first last = .ok (start, count) →
        table.nameable ∧ start.legible ∧ count.legible)
      (r.range first last table) := by
  have pairs : (∀ bounds, window first last = .ok bounds →
      table.nameable = true ∧ bounds.1.legible = true ∧ bounds.2.legible = true) ↔ _ := Prod.forall
  refine ((contained_window starts ends).andThen fun bounds framed => ?_).congr pairs
  obtain ⟨start_shown, count_shown⟩ := writes_bounds framed
  refine ((writes_keyWithin "offset" table).bind fun _ =>
    (writes_keyWithin "limit" table).bind fun _ =>
      start_shown.bind fun _ => count_shown.map _).judged.congr ?_
  simp only [Bool.and_eq_true, and_self_left]

end Request

theorem CollectionTest.judged_operand {test : CollectionTest} {value : Value}
    (shows : value.Shows short) :
    Judged short (value.listItems?.isSome || value.isMap → value.writable) (test.operand value) := by
  cases value with
  | text s => exact (contained_ok s).judged nofun
  | list xs | tuple xs =>
    have joined := ((Value.writes_operandTexts xs).map commaJoin).map ("\x7b" ++ · ++ "\x7d")
    exact joined.judged.congr ⟨fun fit _ => fit, fun fit => fit rfl⟩
  | map es =>
    exact (Json.writes_printMap es).judged.congr ⟨fun fit _ => fit, fun fit => fit rfl⟩
  | _ => exact (contained_argument shows).judged nofun

namespace Step

variable {r : Request} {s : Step}

theorem judged_condition {c : Outcome Condition} (takes : s.condition? = some c)
    (shows : ∀ v ∈ s.arguments, v.Shows short) : Judged short s.PartsFit c := by
  cases s with
  | filterBy v =>
    cases takes
    exact (v.contained_toCondition (shows v (by simp [arguments]))).judged trivial
  | filterCompare op column value =>
    cases takes
    exact (Condition.contained_compare op (shows column (by simp [arguments]))
      (shows value (by simp [arguments]))).judged trivial
  | filterPatterns op quantifier column patterns =>
    cases takes
    refine (Condition.contained_quantify op (shows column (by simp [arguments])) ?_
      fun _ => rfl).judged trivial
    split
    · exact fun _ => rfl
    · exact shows _ (by simp [arguments])
  | filterIs column value =>
    cases takes
    refine Contained.judged ?_ trivial
    split
    · exact Condition.contained_compare .is (shows column (by simp [arguments]))
        (shows value (by simp [arguments]))
    · exact contained_argument (shows value (by simp [arguments]))
  | filterCollection test column value =>
    cases takes
    exact (CollectionTest.judged_operand (shows value (by simp [arguments]))).andThen fun text =>
      Condition.contained_compare _ (shows column (by simp [arguments])) fun _ => rfl
  | filterSearch column query kind language =>
    cases takes
    refine (Request.judged_searchOperator (shows kind (by simp [arguments]))).andThen fun op => ?_
    split
    · exact Condition.contained_search op (shows column (by simp [arguments])) query language
    · exact Condition.contained_compare op (shows column (by simp [arguments]))
        (shows query (by simp [arguments]))
  | _ => cases takes

theorem judged_apply (r : Request) (shows : ∀ v ∈ s.arguments, v.Shows short) :
    Judged short s.Fit (s.apply r) := by
  unfold Fit
  cases takes : s.condition? with
  | some c =>
    rw [apply_of_condition takes]
    refine ((judged_condition takes shows).bind fun c _ => Request.judged_restrict).congr ?_
    simp only [Option.some.injEq, and_comm]
  | none =>
    simp only [reduceCtorEq, false_implies, implies_true, true_and]
    cases s with
    | select columns count returning =>
      exact (Request.contained_select r (shows columns (by simp [arguments]))
        (shows count (by simp [arguments])) returning).judged trivial
    | insert data onConflict returning count | upsert data onConflict returning count =>
      exact Request.judged_posted (shows data (by simp [arguments]))
        (shows returning (by simp [arguments])) (shows count (by simp [arguments])) _
    | update data returning count =>
      exact (Request.contained_update r (shows data (by simp [arguments]))
        (shows returning (by simp [arguments])) (shows count (by simp [arguments]))).judged trivial
    | delete returning count =>
      exact (Request.contained_delete r (shows returning (by simp [arguments]))
        (shows count (by simp [arguments]))).judged trivial
    | filterRaw column operator value =>
      exact Request.judged_raw (shows operator (by simp [arguments]))
        fun expression text => expression ++ "." ++ text
    | filterNot column operator value =>
      exact Request.judged_raw (shows operator (by simp [arguments]))
        fun expression text => "not." ++ expression ++ "." ++ text
    | allOf conditions table | anyOf conditions table =>
      exact Request.judged_grouped (shows conditions (by simp [arguments])) _
    | filterMatch equalities =>
      cases equalities with
      | map es => exact Request.judged_filterMatch (shows _ (by simp [arguments]))
      | _ => exact (contained_argument (shows _ (by simp [arguments]))).judged trivial
    | chooseSchema name =>
      exact (Request.contained_chooseSchema r (shows name (by simp [arguments]))).judged trivial
    | acceptNamed mediaType => exact (MediaType.writes_coerce mediaType).judged.map _
    | order column ascending nullsFirst table =>
      exact Request.judged_order (shows column (by simp [arguments])) ascending nullsFirst
    | limit count table =>
      cases count with
      | int n => exact Request.judged_limit n table
      | _ => exact (contained_argument (shows _ (by simp [arguments]))).judged trivial
    | range first last table =>
      exact Request.judged_range (shows first (by simp [arguments]))
        (shows last (by simp [arguments]))
    | explain details format => exact (Request.judged_planFormat format).map _
    | returnRows columns =>
      exact (Request.contained_returnRows r (shows columns (by simp [arguments]))).judged trivial
    | single | maybeSingle | accept _ | rollback => exact (contained_ok _).judged trivial
    | _ => cases takes

/-- A step whose numbers are all short gives a request or blames its caller exactly if it is fit:
whatever it looks up or writes before it is done, or finds its caller at fault, can be looked up and
written. With longer numbers it fails in another way if it is not fit, and if it is, then at worst
because the blame cannot be put into words. -/
theorem blames_caller_iff (r : Request) (s : Step) :
    (s.legible = true →
      (((∃ r', s.apply r = .ok r') ∨ ∃ f, s.apply r = .error f ∧ f.isContractViolation = true) ↔
        s.Fit)) ∧
    (s.Fit → ∀ f, s.apply r = .error f → f.isContractViolation = true ∨ f = .tooLongToWrite) ∧
    (¬ s.Fit → ∃ f, s.apply r = .error f ∧ f.isContractViolation = false) := by
  have each (legible : s.legible = true) : ∀ v ∈ s.arguments, v.legible = true :=
    List.all_eq_true.mp legible
  -- What is short here: every number of this step.
  obtain ⟨contained, escapes⟩ :=
    judged_apply r fun v member (legible : s.legible = true) => each legible v member
  refine ⟨fun legible => ⟨fun blames => ?_, fun fit => ?_⟩, fun fit f failed => ?_, escapes⟩
  · by_contra unfit
    obtain ⟨f, failed, foreign⟩ := escapes unfit
    rw [failed] at blames
    simp [foreign] at blames
  · cases made : s.apply r with
    | ok r' => exact Or.inl ⟨r', rfl⟩
    | error f =>
      rcases contained fit f made with blamed | ⟨_, long⟩
      · exact Or.inr ⟨f, rfl, blamed⟩
      · exact absurd legible long
  · exact (contained fit f failed).imp_right And.left

/-- A kind of search that does not exist is the fault of the caller, unless it cannot even be looked
up. -/
theorem search_kind_escapes :
    let client : Client := ⟨"http://h", "k", "public", [], "/rest/v1"⟩
    let search (kind : Value) : Step := .filterSearch (.text "a") (.text "q") kind .null
    client.request (.text "t") = .ok (client.seed "t") ∧
      (∃ f, (search (.text "fuzzy")).apply (client.seed "t") = .error f ∧
        f.isContractViolation = true) ∧
      ∃ f, (search (.list [])).apply (client.seed "t") = .error f ∧
        f.isContractViolation = false :=
  ⟨rfl, ⟨_, rfl, rfl⟩, _, rfl, rfl⟩

end Step

end Judged

end RestQuery
