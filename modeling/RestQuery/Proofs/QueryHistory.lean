import Mathlib.Data.List.DropRight
import RestQuery.Proofs.Outcome
import RestQuery.Request.Basic

/-!
# The query as a record of its history

Calls that merge, replace and erase keys leave a query that can be told from the calls alone: which
keys there are, in which order, and which texts the value of each is joined from.
`run_calls_history` says so for every sequence of calls.
-/

namespace RestQuery

open Text

/-- A call that changes the query at one key. -/
inductive QueryCall where
  | merge (key : String) (value : Value)
  | replace (key : String) (value : Value)
  | erase (key : String)

/-- What a call does to the query, if it does anything. -/
inductive QueryEvent where
  | merged (key text : String)
  | replaced (key text : String)
  | erased (key : String)
  deriving DecidableEq

/-- The text that a value puts into the query: null and values without a text put none. -/
def Value.queryText? : Value → Option String
  | .null => none
  | v => v.display.toOption

/-- The request after an update, which is the one before it if the update fails. -/
def Update.advance (r : Request) (u : Update) : Request :=
  match u.apply r with
  | .ok r' => r'
  | .error _ => r

namespace QueryCall

def update : QueryCall → Update
  | merge key value => .mergeQuery (.text key) value
  | replace key value => .replaceQuery (.text key) value
  | erase key => .eraseQuery (.text key)

def event? : QueryCall → Option QueryEvent
  | merge key value => value.queryText?.map (.merged key)
  | replace key value => value.queryText?.map (.replaced key)
  | erase key => some (.erased key)

def run (r : Request) (calls : List QueryCall) : Request :=
  calls.foldl (fun r c => c.update.advance r) r

end QueryCall

namespace QueryEvent

def apply (q : Query) : QueryEvent → Query
  | merged key text => q.merge key text
  | replaced key text => q.replace key text
  | erased key => q.erase key

def run (q : Query) (events : List QueryEvent) : Query := events.foldl apply q

/-! ### The texts of a value -/

/-- The text at a key no longer depends on what was there. -/
def settles (key : String) : QueryEvent → Bool
  | merged .. => false
  | replaced k _ => k == key
  | erased k => k == key

def mergedAt? (key : String) : QueryEvent → Option String
  | merged k text => if k = key then some text else none
  | _ => none

/-- The text at a key when it was last replaced or erased, or else its initial text. -/
def base (key : String) (initial : Option String) (events : List QueryEvent) : Option String :=
  match events.reverse.find? (settles key) with
  | none => initial
  | some (replaced _ text) => some text
  | some _ => none

/-- The base text of a key, if it has one, and those merged into it since, in their order. -/
def texts (key : String) (initial : Option String) (events : List QueryEvent) : List String :=
  (base key initial events).toList ++
    (events.rtakeWhile fun e => !e.settles key).filterMap (mergedAt? key)

/-- The value that some texts come to: leading empty texts leave no trace, no text is no value. -/
def valueOf (texts : List String) : Option String :=
  if texts = [] then none else some (commaJoin (texts.dropWhile (· = "")))

theorem texts_merged (key k text : String) (initial : Option String) (events : List QueryEvent) :
    texts key initial (events ++ [merged k text]) =
      if k = key then texts key initial events ++ [text] else texts key initial events := by
  have base_same : base key initial (events ++ [merged k text]) = base key initial events := by
    simp [base, settles]
  rw [texts, base_same, List.rtakeWhile_concat_pos _ _ _ (by simp [settles]), List.filterMap_append]
  by_cases same : k = key <;> simp [mergedAt?, same, texts]

theorem texts_replaced (key k text : String) (initial : Option String)
    (events : List QueryEvent) :
    texts key initial (events ++ [replaced k text]) =
      if k = key then [text] else texts key initial events := by
  by_cases same : k = key
  · simp [texts, base, settles, same]
  · simp [texts, base, settles, same, mergedAt?]

theorem texts_erased (key k : String) (initial : Option String) (events : List QueryEvent) :
    texts key initial (events ++ [erased k]) =
      if k = key then [] else texts key initial events := by
  by_cases same : k = key
  · simp [texts, base, settles, same]
  · simp [texts, base, settles, same, mergedAt?]

theorem valueOf_singleton (text : String) : valueOf [text] = some text := by
  by_cases empty : text = "" <;>
    simp [valueOf, empty, commaJoin, joinWith_nil, joinWith_singleton]

/-- One more text is merged into the value, or is the value. -/
theorem valueOf_concat (texts : List String) (text : String) :
    valueOf (texts ++ [text]) =
      some (((valueOf texts).map (Query.join · text)).getD text) := by
  by_cases none_yet : texts = []
  · subst none_yet
    exact valueOf_singleton text
  have first : valueOf (texts ++ [text]) =
      some (commaJoin ((texts ++ [text]).dropWhile (· = ""))) := by simp [valueOf]
  rw [first, valueOf, if_neg none_yet, Option.map_some, Option.getD_some, List.dropWhile_append]
  cases rest : texts.dropWhile (· = "") with
  | nil =>
    have value : commaJoin ([text].dropWhile (· = "")) = text := by
      simpa [valueOf] using valueOf_singleton text
    simp [commaJoin, joinWith_nil, Query.join] at value ⊢
    exact value
  | cons head tail =>
    have visible : head ≠ "" := by
      have := List.head_dropWhile_not (· = "") (l := texts) (by simp [rest])
      simpa [rest] using this
    have joined := commaJoin_concat (List.cons_ne_nil head tail) text
    simpa [Query.join, commaJoin_cons_ne_empty visible] using joined

theorem get?_run (q : Query) (key : String) (events : List QueryEvent) :
    (run q events).get? key = valueOf (texts key (q.get? key) events) := by
  induction events using List.reverseRecOn with
  | nil =>
    cases found : q.get? key with
    | none => simp [run, texts, base, valueOf, found]
    | some text => simpa [run, texts, base, found] using (valueOf_singleton text).symm
  | append_singleton events e ih =>
    rw [run, List.foldl_concat]
    change (apply (run q events) e).get? key = _
    cases e with
    | merged k text =>
      rw [apply, Query.get?_merge, texts_merged]
      by_cases same : key = k
      · subst same
        rw [if_pos rfl, if_pos rfl, ih, valueOf_concat]
      · rw [if_neg same, if_neg (Ne.symm same), ih]
    | replaced k text =>
      rw [apply, Query.get?_replace, texts_replaced]
      by_cases same : key = k
      · rw [if_pos same, if_pos same.symm, valueOf_singleton]
      · rw [if_neg same, if_neg (Ne.symm same), ih]
    | erased k =>
      rw [apply, Query.get?_erase, texts_erased]
      by_cases same : key = k
      · simp [same, valueOf]
      · rw [if_neg same, if_neg (Ne.symm same), ih]

/-! ### The order of the keys -/

def erases (key : String) : QueryEvent → Bool
  | erased k => k == key
  | _ => false

def puts (key : String) : QueryEvent → Bool
  | merged k _ | replaced k _ => k == key
  | erased _ => false

/-- The events since a key was last erased. -/
def since (key : String) (events : List QueryEvent) : List QueryEvent :=
  events.rtakeWhile fun e => !e.erases key

/-- When a key was inserted: an initial key that was never erased at its initial place, any other
key at the first event that put it since it was last erased, counted from the last initial key. -/
def insertion (key : String) (initial : List String) (events : List QueryEvent) : Nat :=
  if key ∈ initial ∧ since key events = events then initial.idxOf key
  else initial.length + (events.length - (since key events).length) +
    (since key events).findIdx (puts key)

def Inserted (key : String) (initial : List String) (events : List QueryEvent) : Prop :=
  (key ∈ initial ∧ since key events = events) ∨ ∃ e ∈ since key events, e.puts key

theorem since_length_le (key : String) (events : List QueryEvent) :
    (since key events).length ≤ events.length :=
  (List.rtakeWhile_suffix _ _).length_le

theorem since_concat {key : String} {e : QueryEvent} (kept : e.erases key = false)
    (events : List QueryEvent) : since key (events ++ [e]) = since key events ++ [e] :=
  List.rtakeWhile_concat_pos _ _ _ (by simp [kept])

theorem since_concat_erased {key : String} {e : QueryEvent} (gone : e.erases key = true)
    (events : List QueryEvent) : since key (events ++ [e]) = [] :=
  List.rtakeWhile_concat_neg _ _ _ (by simp [gone])

theorem inserted_concat {key : String} {e : QueryEvent} (kept : e.erases key = false)
    (initial : List String) (events : List QueryEvent) :
    Inserted key initial (events ++ [e]) ↔ Inserted key initial events ∨ e.puts key = true := by
  simp only [Inserted, since_concat kept, List.append_left_inj, List.mem_append,
    List.mem_singleton, or_and_right, exists_or, exists_eq_left, or_assoc]

theorem inserted_concat_erased {key : String} {e : QueryEvent} (gone : e.erases key = true)
    (initial : List String) (events : List QueryEvent) :
    ¬ Inserted key initial (events ++ [e]) := by
  simp [Inserted, since_concat_erased gone]

theorem insertion_lt {key : String} {initial : List String} {events : List QueryEvent}
    (inserted : Inserted key initial events) :
    insertion key initial events < initial.length + events.length := by
  have shorter := since_length_le key events
  unfold insertion
  split
  · rename_i old
    have := List.idxOf_lt_length_of_mem old.1
    omega
  · rename_i fresh
    obtain ⟨e, present, put⟩ := inserted.resolve_left fresh
    have := List.findIdx_lt_length_of_exists ⟨e, present, put⟩
    omega

/-- Later events leave the insertion of a key alone until they erase it. -/
theorem insertion_concat {key : String} {e : QueryEvent} (kept : e.erases key = false)
    {initial : List String} {events : List QueryEvent} (inserted : Inserted key initial events) :
    insertion key initial (events ++ [e]) = insertion key initial events := by
  have shorter := since_length_le key events
  simp only [insertion, since_concat kept, List.append_left_inj, List.length_append,
    List.length_singleton, Nat.add_sub_add_right]
  split
  · rfl
  · rename_i fresh
    obtain ⟨e', present, put⟩ := inserted.resolve_left fresh
    have found := List.findIdx_lt_length_of_exists ⟨e', present, put⟩
    rw [List.findIdx_append, if_pos found]

/-- A key put while it is not there is inserted after all others. -/
theorem insertion_new {key : String} {e : QueryEvent} (put : e.puts key = true)
    {initial : List String} {events : List QueryEvent} (absent : ¬ Inserted key initial events) :
    insertion key initial (events ++ [e]) = initial.length + events.length := by
  have kept : e.erases key = false := by cases e <;> simp_all [puts, erases]
  have shorter := since_length_le key events
  obtain ⟨fresh, unput⟩ := not_or.mp absent
  have late : (since key events).findIdx (puts key) = (since key events).length := by
    rw [List.findIdx_eq_length]
    intro e' present
    simpa using fun put' => unput ⟨e', present, put'⟩
  simp only [insertion, since_concat kept, List.append_left_inj, List.length_append,
    List.length_singleton, Nat.add_sub_add_right, if_neg fresh]
  rw [List.findIdx_append, late, if_neg (Nat.lt_irrefl _)]
  simp [List.findIdx_cons, put]
  omega

theorem keys_apply (q : Query) (e : QueryEvent) :
    (e.apply q).keys = match e with
      | merged k _ | replaced k _ => if k ∈ q.keys then q.keys else q.keys ++ [k]
      | erased k => q.keys.filter (· != k) := by
  cases e with
  | merged k text => exact Query.keys_put k text (Query.join · text) q.entries
  | replaced k text => exact Query.keys_put k text (fun _ => text) q.entries
  | erased k => simp [apply, Query.erase, Query.keys, List.filter_map, Function.comp_def]

theorem run_concat (q : Query) (events : List QueryEvent) (e : QueryEvent) :
    run q (events ++ [e]) = e.apply (run q events) := List.foldl_concat ..

theorem mem_keys_run (q : Query) (key : String) (events : List QueryEvent) :
    key ∈ (run q events).keys ↔ Inserted key q.keys events := by
  induction events using List.reverseRecOn with
  | nil => simp [run, Inserted, since]
  | append_singleton events e ih =>
    rw [run_concat, keys_apply]
    cases e with
    | merged k text | replaced k text =>
      rw [inserted_concat (by rfl), ← ih]
      by_cases there : k ∈ (run q events).keys
      · simp only [there, if_true, puts, beq_iff_eq]
        exact ⟨Or.inl, fun h => h.elim id fun same => same ▸ there⟩
      · simp only [there, if_false, puts, beq_iff_eq, List.mem_append, List.mem_singleton,
          @eq_comm _ k key]
    | erased k =>
      by_cases same : k = key
      · have gone : (erased k).erases key = true := by simp [erases, same]
        exact iff_of_false (by simp [same]) (inserted_concat_erased gone _ _)
      · have kept : (erased k).erases key = false := by simp [erases, same]
        rw [inserted_concat kept, ← ih]
        simp [puts, Ne.symm same]

/-- The keys after an event that puts one of them stand in the order of their insertion. -/
theorem ordered_put {initial keys : List String} {events : List QueryEvent} {e : QueryEvent}
    {k : String} (put : ∀ key, e.puts key = (k == key))
    (inserted : ∀ key, key ∈ keys ↔ Inserted key initial events)
    (ordered : keys.Pairwise fun a b => insertion a initial events < insertion b initial events) :
    (if k ∈ keys then keys else keys ++ [k]).Pairwise fun a b =>
      insertion a initial (events ++ [e]) < insertion b initial (events ++ [e]) := by
  have kept : ∀ key, e.erases key = false := by
    intro key
    have := put k
    cases e <;> simp_all [puts, erases]
  have same : ∀ a ∈ keys, insertion a initial (events ++ [e]) = insertion a initial events :=
    fun a member => insertion_concat (kept a) ((inserted a).mp member)
  have old : keys.Pairwise fun a b =>
      insertion a initial (events ++ [e]) < insertion b initial (events ++ [e]) :=
    ordered.imp_of_mem fun {a b} ha hb lt => by rw [same a ha, same b hb]; exact lt
  by_cases there : k ∈ keys
  · rw [if_pos there]
    exact old
  · rw [if_neg there, List.pairwise_append]
    refine ⟨old, List.pairwise_singleton _ _, ?_⟩
    intro a member b last
    obtain rfl := List.mem_singleton.mp last
    rw [same a member, insertion_new (by simp [put]) fun h => there ((inserted b).mpr h)]
    exact insertion_lt ((inserted a).mp member)

theorem keys_run_ordered {q : Query} (distinct : q.Distinct) (events : List QueryEvent) :
    (run q events).keys.Pairwise fun a b =>
      insertion a q.keys events < insertion b q.keys events := by
  induction events using List.reverseRecOn with
  | nil =>
    rw [List.pairwise_iff_getElem]
    intro i j hi hj lt
    change i < q.keys.length at hi
    change j < q.keys.length at hj
    have place : ∀ n (h : n < q.keys.length), insertion q.keys[n] q.keys [] = n := by
      intro n h
      simp [insertion, since, List.Nodup.idxOf_getElem distinct n h]
    change insertion q.keys[i] q.keys [] < insertion q.keys[j] q.keys []
    rw [place i hi, place j hj]
    exact lt
  | append_singleton events e ih =>
    have inserted := fun key => mem_keys_run q key events
    rw [run_concat, keys_apply]
    cases e with
    | merged k text | replaced k text => exact ordered_put (fun _ => rfl) inserted ih
    | erased k =>
      refine (ih.sublist List.filter_sublist).imp_of_mem fun {a b} ha hb lt => ?_
      obtain ⟨ha, other_a⟩ := List.mem_filter.mp ha
      obtain ⟨hb, other_b⟩ := List.mem_filter.mp hb
      have kept : ∀ key, (key != k) = true → (erased k).erases key = false := by
        intro key other
        exact beq_false_of_ne fun same => by simp [same] at other
      rw [insertion_concat (kept a other_a) ((inserted a).mp ha),
        insertion_concat (kept b other_b) ((inserted b).mp hb)]
      exact lt

theorem distinct_run {q : Query} (distinct : q.Distinct) (events : List QueryEvent) :
    (run q events).Distinct :=
  (keys_run_ordered distinct events).imp fun lt same => absurd (same ▸ lt) (Nat.lt_irrefl _)

end QueryEvent

namespace QueryCall

/-- A call changes the query by its event and nothing else. -/
theorem advance_update (r : Request) (c : QueryCall) :
    c.update.advance r =
      { r with query := (c.event?.map fun e => e.apply r.query).getD r.query } := by
  have put : ∀ (f : Query → String → String → Query) (key : String) (value : Value),
      r.putQuery f (.text key) value = match value with
        | .null => .ok r
        | v => do return { r with query := f r.query key (← v.display) } := by
    intro f key value
    cases value <;> rfl
  cases c with
  | merge key value | replace key value =>
    simp only [update, Update.advance, Update.apply, Request.withQuery, Request.replaceQuery, put,
      event?, Value.queryText?]
    cases value with
    | null => rfl
    | _ =>
      simp only
      split <;> rename_i shown
      · obtain ⟨text, displayed, same⟩ := bind_ok.mp shown
        rw [← pure_ok.mp same, toOption_ok.mpr displayed]
        rfl
      · cases displayed : Value.display _ with
        | ok text => simp [displayed, bind, Except.bind, pure, Except.pure] at shown
        | error f => rfl
  | erase key => rfl

theorem run_eq (r : Request) (calls : List QueryCall) :
    run r calls = { r with query := QueryEvent.run r.query (calls.filterMap event?) } := by
  induction calls generalizing r with
  | nil => rfl
  | cons c calls ih =>
    rw [run, List.foldl_cons]
    change run (c.update.advance r) calls = _
    rw [ih, advance_update]
    cases effect : c.event? with
    | none => simp [effect]
    | some e => simp [effect, QueryEvent.run]

end QueryCall

open QueryEvent in
/-- Calls on a query without repeated keys leave what their history says: no repeated keys, each
key with its base text and the texts merged into it since, in the order of insertion. Both ways to
read the query agree on it, and the rest of the request stays as it was. -/
theorem run_calls_history {r : Request} (distinct : r.query.Distinct) (calls : List QueryCall) :
    let events := calls.filterMap QueryCall.event?
    let final := QueryCall.run r calls
    final.query.Distinct ∧
    (∀ key, key ∈ final.query.keys ↔ texts key (r.query.get? key) events ≠ []) ∧
    (final.query.keys.Pairwise fun a b =>
      insertion a r.query.keys events < insertion b r.query.keys events) ∧
    (∀ key, final.query.get? key = valueOf (texts key (r.query.get? key) events)) ∧
    (∀ key, final.getQuery (.text key) =
      ((final.queryParams.lookup key).map Value.text).getD .null) ∧
    (∀ (s : Request) (key : String), s.withQuery (.text key) .null = .ok s ∧
      s.replaceQuery (.text key) .null = .ok s) ∧
    final = { r with query := final.query } := by
  intro events final
  have run_query : final.query = QueryEvent.run r.query events := by
    rw [show final = _ from QueryCall.run_eq r calls]
  have kept : final.query.Distinct := run_query ▸ distinct_run distinct events
  have value : ∀ key, final.query.get? key = valueOf (texts key (r.query.get? key) events) :=
    fun key => run_query ▸ get?_run r.query key events
  refine ⟨kept, ?_, run_query ▸ keys_run_ordered distinct events, value, ?_, ?_, ?_⟩
  · intro key
    rw [← not_iff_not, not_not, ← Query.get?_eq_none, value]
    by_cases none_yet : texts key (r.query.get? key) events = [] <;> simp [valueOf, none_yet]
  · intro key
    rw [Request.queryParams, Query.lookup_params kept]
    rfl
  · exact fun s key => ⟨rfl, rfl⟩
  · rw [run_query]
    exact QueryCall.run_eq r calls

open QueryEvent in
/-- An initial key that is erased and put again moves to the end, where an empty text is forgotten. -/
theorem run_calls_history_reinserted :
    let r : Request := { url := .text "u", query := ⟨[("a", "1"), ("b", "")]⟩ }
    let calls : List QueryCall := [.merge "b" (.text "x"), .erase "a", .merge "a" (.text ""),
      .merge "a" (.bool true), .replace "b" .null]
    r.query.Distinct ∧ (QueryCall.run r calls).query.get? "a" = some "True" ∧
      (QueryCall.run r calls).query.get? "b" = some "x" ∧
      insertion "b" r.query.keys (calls.filterMap QueryCall.event?) <
        insertion "a" r.query.keys (calls.filterMap QueryCall.event?) := by
  intro r calls
  have distinct : r.query.Distinct := by simp [Query.Distinct, Query.keys, r]
  obtain ⟨_, _, _, value, _⟩ := run_calls_history distinct calls
  exact ⟨distinct, by rw [value]; decide, by rw [value]; decide, by decide⟩

end RestQuery
