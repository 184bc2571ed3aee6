import RestQuery.Proofs.Conjunction
import RestQuery.Proofs.QueryHistory

/-!
# The shape that steps give a result

The order, the limit and the offset of the relation and of each table, and the projection, are told
from the steps for them alone, however those are mixed with others: terms of an order add up, and
anything else is as it was last chosen.
-/

namespace RestQuery

open Text

theorem Value.toString_of_digitsOf {n : Int} {text : String} (shown : digitsOf n = .ok text) :
    text = toString n := by
  unfold digitsOf at shown
  split at shown
  · exact (Except.ok.inj shown).symm
  · cases shown

theorem foldl_merge (texts : List String) :
    texts.foldl (fun held text => some ((held.map (Query.join · text)).getD text)) none =
      QueryEvent.valueOf texts := by
  induction texts using List.reverseRecOn with
  | nil => rfl
  | append_singleton texts text ih => rw [List.foldl_concat, ih, QueryEvent.valueOf_concat]

theorem valueOf_visible {texts : List String} (visible : ∀ text ∈ texts, text ≠ "") :
    QueryEvent.valueOf texts = if texts = [] then none else some (commaJoin texts) := by
  have whole : texts.dropWhile (· = "") = texts := by
    cases texts with
    | nil => rfl
    | cons text rest =>
      exact List.dropWhile_cons_of_neg (by simpa using visible text List.mem_cons_self)
  rw [QueryEvent.valueOf, whole]

/-! ### Projections -/

namespace Value

/-- The names in a list or a tuple, all of which have to be texts. No bytes are no names. -/
def names? : Value → Option (List String)
  | list xs | tuple xs => xs.mapM text?
  | bytes [] => some []
  | _ => none

/-- The columns that a selection asks for: a text as it is, or names with commas between them. -/
def selected? : Value → Option String
  | text s => some s
  | v => v.names?.map commaJoin

/-- The name of a column without the blanks around it, unless it is quoted. -/
def unpadded (name : String) : String := if '"' ∈ name.toList then name else trim name

/-- All columns, where none are named. -/
def orAll (columns : String) : String := if columns = "" then "*" else columns

/-- The columns that come back: a text or names without the blanks around them. Nothing means all. -/
def returned? : Value → Option String
  | null => some "*"
  | text s => some (orAll (trim s))
  | v => v.names?.map fun names => orAll (commaJoin (names.map unpadded))

/-- The names in a value are the items of an ordered sequence other than a text, if those are texts. -/
theorem names?_eq {v : Value} (other : ∀ s, v ≠ text s) :
    v.names? = v.sequenceItems?.bind fun xs => xs.mapM text? := by
  cases v with
  | text s => exact absurd rfl (other s)
  | bytes bs =>
    cases bs with
    | nil => rfl
    | cons b bs => simp [names?, sequenceItems?, text?]
  | _ => rfl

end Value

namespace Request

theorem columnList_eq (columns : Value) : (columnList columns).toOption = columns.selected? := by
  by_cases given : ∃ s, columns = .text s
  · obtain ⟨s, rfl⟩ := given
    rfl
  · have other : ∀ s, columns ≠ .text s := not_exists.mp given
    have listed : columns.selected? = columns.names?.map commaJoin := by
      cases columns with
      | text s => exact absurd rfl (other s)
      | _ => rfl
    rw [listed, Value.names?_eq other]
    unfold columnList
    split
    · exact absurd rfl (other _)
    · cases columns.sequenceItems?.bind fun xs => xs.mapM Value.text? with
      | none => rfl
      | some names => rfl

theorem toOption_projected (column : Value) :
    (projected column).toOption = column.text?.map Value.unpadded := by
  cases column with
  | text s => simp [projected, Value.text?, Value.unpadded, contains, Except.toOption]
  | _ => rfl

/-- Every name is trimmed on its own. -/
theorem toOption_mapM_projected (xs : List Value) :
    (xs.mapM projected).toOption = (xs.mapM Value.text?).map (·.map Value.unpadded) := by
  rw [toOption_mapM]
  simp only [toOption_projected]
  induction xs with
  | nil => rfl
  | cons x xs ih =>
    simp only [List.mapM_cons, ih]
    cases x.text? with
    | none => rfl
    | some s =>
      cases xs.mapM Value.text? with
      | none => rfl
      | some names => rfl

theorem projection_eq (columns : Value) : (projection columns).toOption = columns.returned? := by
  by_cases given : columns = .null ∨ ∃ s, columns = .text s
  · obtain rfl | ⟨s, rfl⟩ := given
    · rfl
    · rfl
  · obtain ⟨some_columns, other⟩ := not_or.mp given
    have other : ∀ s, columns ≠ .text s := not_exists.mp other
    have listed : columns.returned? =
        columns.names?.map fun names => Value.orAll (commaJoin (names.map Value.unpadded)) := by
      cases columns with
      | null => exact absurd rfl some_columns
      | text s => exact absurd rfl (other s)
      | _ => rfl
    rw [listed, Value.names?_eq other]
    unfold projection
    dsimp only
    split
    · exact absurd rfl some_columns
    · exact absurd rfl (other _)
    · cases columns.sequenceItems? with
      | none => rfl
      | some xs =>
        have names := toOption_mapM_projected xs
        simp only [toOption_bind, names, Option.bind_some]
        cases xs.mapM Value.text? with
        | none => rfl
        | some names => rfl

end Request

namespace Step

/-! ### What a step says about the shape -/

/-- The term that a step adds to the order of a table, or to that of the relation. -/
@[simp] def term? (scope : Option String) : Step → Option String
  | order (.text column) ascending nullsFirst table =>
    if table.scope.toOption = some scope then
      some (column ++ (if ascending.truth then ".asc" else ".desc") ++
        (if nullsFirst.truth then ".nullsfirst" else ".nullslast"))
    else none
  | _ => none

/-- The number of rows that a step asks for. -/
@[simp] def rowLimit? (scope : Option String) : Step → Option Int
  | limit (.int n) table => if table.scope.toOption = some scope then some n else none
  | range (.int first) (.int last) table =>
    if table.scope.toOption = some scope then some (last - first + 1) else none
  | _ => none

/-- The number of rows that a step leaves out in front. -/
@[simp] def rowOffset? (scope : Option String) : Step → Option Int
  | range (.int first) _ table => if table.scope.toOption = some scope then some first else none
  | _ => none

/-- The columns that a step asks for. -/
@[simp] def projection? : Step → Option String
  | select columns _ _ => columns.selected?
  | returnRows columns => columns.returned?
  | _ => none

def isShape : Step → Bool
  | select _ _ _ | order _ _ _ _ | limit _ _ | range _ _ _ | returnRows _ => true
  | _ => false

/-- The bounds of a range are whole numbers. -/
def wholeBounds : Step → Bool
  | range (.int _) (.int _) _ => true
  | range _ _ _ => false
  | _ => true

/-- The keys that shape a result. -/
inductive Slot where
  | order (scope : Option String)
  | limit (scope : Option String)
  | offset (scope : Option String)
  | select
  deriving DecidableEq

namespace Slot

def scope : Slot → Option String
  | order scope | limit scope | offset scope => scope
  | select => none

def name : Slot → String
  | order _ => "order"
  | limit _ => "limit"
  | offset _ => "offset"
  | select => "select"

def key (slot : Slot) : String := scopedKey slot.scope slot.name

/-- The text that a step puts into a slot. -/
@[simp] def text? : Slot → Step → Option String
  | order scope, s => s.term? scope
  | limit scope, s => (s.rowLimit? scope).map toString
  | offset scope, s => (s.rowOffset? scope).map toString
  | select, s => s.projection?

def write (slot : Slot) (text : String) : QueryWrite :=
  match slot with
  | order _ => .merge slot.key text
  | _ => .set slot.key text

theorem key_write (slot : Slot) (text : String) : (slot.write text).key = slot.key := by
  cases slot with
  | order _ | limit _ | offset _ | select => rfl

/-- The names of the keys that neither shape a result nor are columns. -/
def otherNames : List String := ["and", "or", "on_conflict"]

theorem plain (slot : Slot) : '.' ∉ slot.name.toList ∧ slot.name ∉ otherNames := by
  have each : ∀ name ∈ ["order", "limit", "offset", "select"],
      '.' ∉ name.toList ∧ name ∉ otherNames := by decide
  cases slot with
  | order _ | limit _ | offset _ | select => exact each _ (by simp [name])

theorem key_inj {slot slot' : Slot} : slot.key = slot'.key ↔ slot = slot' := by
  constructor
  · intro same
    obtain ⟨scopes, names⟩ := scopedKey_inj slot.plain.1 slot'.plain.1 same
    cases slot <;> cases slot' <;> simp_all [scope, name]
  · rintro rfl
    rfl

theorem key_ne_other (slot : Slot) (scope : Option String) {name : String}
    (other : name ∈ otherNames) : scopedKey scope name ≠ slot.key := by
  have undotted : ∀ name ∈ otherNames, '.' ∉ name.toList := by decide
  intro same
  obtain ⟨_, named⟩ := scopedKey_inj (undotted name other) slot.plain.1 same
  exact slot.plain.2 (named ▸ other)

theorem filter_write (slot' slot : Slot) (text : String) :
    [slot'.write text].filter (·.key = slot.key) =
      (if slot' = slot then some text else none).toList.map slot.write := by
  by_cases here : slot' = slot
  · subst here
    simp [key_write]
  · simp [key_write, key_inj, here]

end Slot

/-! ### Steps -/

section
variable {s : Step} {ws : List QueryWrite} {slot : Slot}

/-- A key that a step may write and that shapes no result. -/
def Elsewhere (s : Step) (key : String) : Prop :=
  key ∈ s.columns ∨ ∃ scope, ∃ name ∈ Slot.otherNames, key = scopedKey scope name

/-- Steps for something else leave the keys that shape the result alone. -/
theorem elsewhere_of_writes (written : s.writes = .ok ws) (other : s.isShape = false) :
    ∀ w ∈ ws, s.Elsewhere w.key := by
  have named {scope : Option String} {name : String} (named : name ∈ Slot.otherNames) :
      s.Elsewhere (scopedKey scope name) := Or.inr ⟨scope, name, named, rfl⟩
  cases writing_of_writes written with
  | condition takes made =>
    simp only [Condition.writes, bind_ok, pure_ok] at made
    obtain ⟨⟨key, value⟩, rendered, rfl⟩ := made
    have elsewhere : s.Elsewhere key := by
      rcases Condition.param_key rendered with column | group
      · exact Or.inl (by simp [columns, takes, column])
      · obtain ⟨scope, name, named, grouped⟩ := Condition.scoped_of_groupKey? _ group
        exact Or.inr ⟨scope, name, List.mem_append_left ["on_conflict"] named, grouped⟩
    refine List.forall_mem_singleton.mpr ?_
    split
    · exact elsewhere
    · exact elsewhere
  | raw takes made => exact fun w member => Or.inl (key_of_rawWrites takes made w member)
  | equalities made => exact fun w member => Or.inl (key_of_equalities made w member)
  | conjunction _ _ => exact List.forall_mem_singleton.mpr (named (by decide))
  | shape unfiltered _ =>
    cases s with
    | insert data onConflict returning count | upsert data onConflict returning count =>
      obtain ⟨target, _, rfl⟩ := by
        simpa only [writes, condition?, bind_ok, pure_ok] using written
      cases target with
      | none => exact List.forall_mem_nil _
      | some columns => exact List.forall_mem_singleton.mpr (@named none _ (by decide))
    | anyOf conditions table =>
      obtain ⟨_, _, key, keyed, rfl⟩ := by
        simpa only [writes, condition?, bind_ok, pure_ok] using written
      obtain ⟨scope, _, rfl⟩ := Request.keyWithin_ok.mp keyed
      exact List.forall_mem_singleton.mpr (named (by decide))
    | select _ _ _ | order _ _ _ _ | limit _ _ | range _ _ _ | returnRows _ => cases other
    | filterBy _ | filterCompare _ _ _ | filterPatterns _ _ _ _ | filterIs _ _
    | filterCollection _ _ _ | filterSearch _ _ _ _ | filterRaw _ _ _ | filterNot _ _ _
    | allOf _ _ => cases unfiltered
    | filterMatch equalities =>
      cases equalities with
      | map es => cases unfiltered
      | _ =>
        cases written
        exact List.forall_mem_nil _
    | _ =>
      cases written
      exact List.forall_mem_nil _

theorem text?_of_no_shape (other : s.isShape = false) : slot.text? s = none := by
  cases s with
  | select _ _ _ | order _ _ _ _ | limit _ _ | range _ _ _ | returnRows _ => cases other
  | _ => cases slot <;> rfl

theorem orderTerm_eq (column : String) (ascending nullsFirst : Bool) :
    Request.orderTerm column ascending nullsFirst =
      column ++ (if ascending then ".asc" else ".desc") ++
        (if nullsFirst then ".nullsfirst" else ".nullslast") := by
  rw [← String.toList_inj]
  cases ascending <;> cases nullsFirst <;> simp [Request.orderTerm]

theorem bounds_of_whole {first last table : Value}
    (whole : (range first last table).wholeBounds = true) : ∃ a b, first = .int a ∧ last = .int b := by
  unfold wholeBounds at whole
  split at whole
  · rename_i same
    cases same
    exact ⟨_, _, rfl, rfl⟩
  · cases whole
  · rename_i other
    exact absurd rfl (other _ _ _)

theorem writes_of_range {a b : Int} {table : Value}
    (written : (range (.int a) (.int b) table).writes = .ok ws) :
    ∃ scope, table.scope = .ok scope ∧
      ws = [(Slot.offset scope).write (toString a),
        (Slot.limit scope).write (toString (b - a + 1))] := by
  simp only [writes, condition?, bind_ok, pure_ok] at written
  obtain ⟨bounds, framed, startKey, start_keyed, countKey, count_keyed, start, start_shown, count,
    count_shown, rfl⟩ := written
  cases framed
  obtain ⟨scope, within, rfl⟩ := Request.keyWithin_ok.mp start_keyed
  obtain ⟨scope', within', rfl⟩ := Request.keyWithin_ok.mp count_keyed
  obtain rfl := Except.ok.inj (within.symm.trans within')
  obtain rfl := Value.toString_of_digitsOf start_shown
  obtain rfl := Value.toString_of_digitsOf count_shown
  exact ⟨scope, within, rfl⟩

/-- What a step writes at a slot is the text that it puts there. -/
theorem writes_at (written : s.writes = .ok ws) (free : slot.key ∉ s.columns)
    (whole : s.wholeBounds = true) :
    ws.filter (·.key = slot.key) = (slot.text? s).toList.map slot.write := by
  cases s with
  | select columns count returning =>
    obtain ⟨text, listed, rfl⟩ := by
      simpa only [writes, condition?, bind_ok, pure_ok] using written
    have chosen : columns.selected? = some text := by
      rw [← Request.columnList_eq, toOption_ok, listed]
    have put : slot.text? (select columns count returning) =
        if .select = slot then some text else none := by
      cases slot <;> simp [chosen]
    rw [put]
    exact Slot.filter_write .select slot text
  | order column ascending nullsFirst table =>
    obtain ⟨name, named, key, keyed, rfl⟩ := by
      simpa only [writes, condition?, bind_ok, pure_ok] using written
    obtain ⟨scope, within, rfl⟩ := Request.keyWithin_ok.mp keyed
    obtain ⟨rfl, _⟩ := Condition.columnName_ok.mp named
    have put : slot.text? (order (.text name) ascending nullsFirst table) =
        if .order scope = slot then
          some (Request.orderTerm name ascending.truth nullsFirst.truth) else none := by
      cases slot <;> simp [toOption_ok, within, orderTerm_eq]
    rw [put]
    exact Slot.filter_write (.order scope) slot _
  | limit count table =>
    cases count with
    | int n =>
      obtain ⟨key, keyed, text, shown, rfl⟩ := by
        simpa only [writes, condition?, bind_ok, pure_ok] using written
      obtain ⟨scope, within, rfl⟩ := Request.keyWithin_ok.mp keyed
      obtain rfl := Value.toString_of_digitsOf shown
      have put : slot.text? (limit (.int n) table) =
          if .limit scope = slot then some (toString n) else none := by
        cases slot <;> simp [toOption_ok, within]
      rw [put]
      exact Slot.filter_write (.limit scope) slot _
    | _ =>
      cases written
      cases slot <;> rfl
  | range first last table =>
    obtain ⟨a, b, rfl, rfl⟩ := bounds_of_whole whole
    obtain ⟨scope, within, rfl⟩ := writes_of_range written
    have put : slot.text? (range (.int a) (.int b) table) =
        (if .offset scope = slot then some (toString a) else none).or
          (if .limit scope = slot then some (toString (b - a + 1)) else none) := by
      cases slot <;> simp [toOption_ok, within]
    rw [put]
    -- The two writes are taken apart so that each is filtered as the only one.
    refine (List.filter_append [(Slot.offset scope).write _] [(Slot.limit scope).write _]).trans ?_
    rw [Slot.filter_write, Slot.filter_write]
    by_cases here : .offset scope = slot
    · simp [← here]
    · simp [here]
  | returnRows columns =>
    obtain ⟨text, projected, rfl⟩ := by
      simpa only [writes, condition?, bind_ok, pure_ok] using written
    have chosen : columns.returned? = some text := by
      rw [← Request.projection_eq, toOption_ok, projected]
    have put : slot.text? (returnRows columns) = if .select = slot then some text else none := by
      cases slot <;> simp [chosen]
    rw [put]
    exact Slot.filter_write .select slot text
  | _ =>
    have elsewhere := elsewhere_of_writes written rfl
    rw [text?_of_no_shape rfl, Option.toList_none, List.map_nil, List.filter_eq_nil_iff]
    intro w member here
    have here : w.key = slot.key := by simpa using here
    rcases elsewhere w member with column | ⟨scope, name, other, named⟩
    · exact free (here ▸ column)
    · exact slot.key_ne_other scope other (named.symm.trans here)

/-- What a step that succeeds leaves in a slot. -/
theorem apply_slot {r r' : Request} (done : s.apply r = .ok r') (free : slot.key ∉ s.columns)
    (whole : s.wholeBounds = true) :
    r'.query.get? slot.key =
      ((slot.text? s).map fun text => (slot.write text).left (r.query.get? slot.key)).or
        (r.query.get? slot.key) := by
  obtain ⟨ws, written, after⟩ := apply_query done
  rw [after, QueryWrite.get?_run_filter, writes_at written free whole]
  cases slot.text? s with
  | none => rfl
  | some text =>
    have put := QueryWrite.get?_apply_self r.query (slot.write text)
    rw [Slot.key_write] at put
    exact put

end

/-! ### Runs -/

section
variable {r : Request} {steps : List Step}

theorem slot_advanceAll (slot : Slot)
    (free : ∀ s ∈ succeeded r steps, slot.key ∉ s.columns)
    (whole : ∀ s ∈ succeeded r steps, s.wholeBounds = true) :
    (advanceAll r steps).query.get? slot.key =
      ((succeeded r steps).filterMap slot.text?).foldl
        (fun held text => some ((slot.write text).left held)) (r.query.get? slot.key) := by
  have step : ∀ s ∈ succeeded r steps, ∀ b b', s.apply b = .ok b' →
      b'.query.get? slot.key =
        ((slot.text? s).map fun text => (slot.write text).left (b.query.get? slot.key)).or
          (b.query.get? slot.key) :=
    fun s ran _ _ done => apply_slot done (free s ran) (whole s ran)
  have run := view_advanceAll (fun b => b.query.get? slot.key)
    (fun held s => ((slot.text? s).map fun text => (slot.write text).left held).or held) step
  rw [run, List.foldl_filterMap]
  congr 1
  funext held s
  cases slot.text? s with
  | none => rfl
  | some text => rfl

theorem overwritten_advanceAll {slot : Slot}
    (overwrites : ∀ held text, (slot.write text).left held = text)
    (free : ∀ s ∈ succeeded r steps, slot.key ∉ s.columns)
    (whole : ∀ s ∈ succeeded r steps, s.wholeBounds = true)
    (none_yet : r.query.get? slot.key = none) :
    (advanceAll r steps).query.get? slot.key =
      ((succeeded r steps).filterMap slot.text?).getLast? := by
  have last (texts : List String) :
      texts.foldl (fun held text => some ((slot.write text).left held)) none = texts.getLast? := by
    induction texts using List.reverseRecOn with
    | nil => rfl
    | append_singleton texts text _ => simp [overwrites]
  rw [slot_advanceAll slot free whole, none_yet, last]

theorem visible_term {scope : Option String} {s : Step} {text : String}
    (added : s.term? scope = some text) : text ≠ "" := by
  unfold term? at added
  split at added
  · split at added
    · obtain rfl := Option.some.inj added
      split <;> simp
    · cases added
  · cases added

end

/-- Whatever steps come in between, the order of a table, or of the relation, lists the terms of the
steps that succeeded; its limit and its offset are those chosen last, and so is the projection. -/
theorem shape_of_run {client : Client} {relation : Value} {r : Request}
    (started : client.request relation = .ok r) (steps : List Step)
    (free : ∀ s ∈ succeeded r steps, ∀ slot : Slot, slot.key ∉ s.columns)
    (whole : ∀ s ∈ succeeded r steps, s.wholeBounds = true) :
    let held := (advanceAll r steps).query.get?
    let done := succeeded r steps
    (∀ scope,
      held (scopedKey scope "order") =
        (if done.filterMap (term? scope) = [] then none
          else some (commaJoin (done.filterMap (term? scope)))) ∧
      held (scopedKey scope "limit") = (done.filterMap (rowLimit? scope)).getLast?.map toString ∧
      held (scopedKey scope "offset") =
        (done.filterMap (rowOffset? scope)).getLast?.map toString) ∧
    held "select" = (done.filterMap projection?).getLast? := by
  intro held done
  have none_yet (key : String) : r.query.get? key = none := by
    rw [Client.query_of_request started, Query.get?_empty]
  have overwritten (slot : Slot) (overwrites : ∀ held text, (slot.write text).left held = text) :
      held slot.key = (done.filterMap slot.text?).getLast? :=
    overwritten_advanceAll overwrites (fun s ran => free s ran slot) whole (none_yet slot.key)
  have number (value? : Step → Option Int) :
      (done.filterMap fun s => (value? s).map toString).getLast? =
        (done.filterMap value?).getLast?.map toString := by
    rw [← List.getLast?_map, List.map_filterMap]
  refine ⟨fun scope => ⟨?_, ?_, ?_⟩, overwritten .select fun _ _ => rfl⟩
  · have run := slot_advanceAll (.order scope) (fun s ran => free s ran _) whole
    have visible : ∀ text ∈ done.filterMap (term? scope), text ≠ "" := by
      intro text member
      obtain ⟨s, _, added⟩ := List.mem_filterMap.mp member
      exact visible_term added
    rw [none_yet] at run
    exact run.trans ((foldl_merge _).trans (valueOf_visible visible))
  · exact (overwritten (.limit scope) fun _ _ => rfl).trans (number (rowLimit? scope))
  · exact (overwritten (.offset scope) fun _ _ => rfl).trans (number (rowOffset? scope))

theorem shape_of_run_interleaved :
    let client : Client := ⟨"http://h", "k", "public", [], "/rest/v1"⟩
    let steps : List Step :=
      [.order (.text "price") (.bool false) (.bool true) .null, .range (.int 10) (.int 19) .null,
        .order (.text "id") (.bool true) .null (.text "items"), .order (.text "") .null .null .null,
        .filterCompare .eq (.text "total") (.int 2), .range (.int 0) (.int 2) (.text "items"),
        .select (.text "*") (.text "exact") (.bool true), .order (.text "id") (.int 1) .null .null,
        .limit (.int 5) .null, .limit (.bool true) .null,
        .returnRows (.list [.text " id ", .text "total"])]
    let held := (advanceAll (client.seed "t") steps).query.get?
    held "order" = some "price.desc.nullsfirst,id.asc.nullslast" ∧ held "limit" = some "5" ∧
      held "offset" = some "10" ∧ held "select" = some "id,total" ∧
      held "items.order" = some "id.asc.nullslast" ∧ held "items.limit" = some "3" ∧
      held "items.offset" = some "0" := by
  intro client steps held
  have started : client.request (.text "t") = .ok (client.seed "t") := rfl
  have filtered : ∀ s ∈ succeeded (client.seed "t") steps, ∀ column ∈ s.columns,
      column = scopedKey none "total" := by
    decide +kernel
  have free : ∀ s ∈ succeeded (client.seed "t") steps, ∀ slot : Slot, slot.key ∉ s.columns := by
    intro s ran slot filters
    have names := (scopedKey_inj slot.plain.1 (by decide) (filtered s ran _ filters)).2
    cases slot with
    | order _ | limit _ | offset _ | select => exact absurd names (by simp [Slot.name])
  have whole : ∀ s ∈ succeeded (client.seed "t") steps, s.wholeBounds = true := by decide +kernel
  obtain ⟨shape, projection⟩ := shape_of_run started steps free whole
  obtain ⟨order, limit, offset⟩ := shape none
  obtain ⟨items_order, items_limit, items_offset⟩ := shape (some "items")
  refine ⟨order.trans ?_, limit.trans ?_, offset.trans ?_, projection.trans ?_,
    items_order.trans ?_, items_limit.trans ?_, items_offset.trans ?_⟩
  all_goals decide +kernel

end Step

end RestQuery
