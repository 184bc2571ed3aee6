import RestQuery.Proofs.StepWrites

/-!
# What a step does

`parts_of_apply` says all that a step that succeeds does to a request: to its URL, method, body and
schema, to its query by the writes of the step, and to its headers. What runs do is derived from it.
-/

namespace RestQuery

open Text

namespace Headers

theorem names_put (name value : String) (es : List (String × String)) :
    (put name value es).map (·.1) =
      if name ∈ es.map (·.1) then es.map (·.1) else es.map (·.1) ++ [name] := by
  induction es with
  | nil => rfl
  | cons e es ih =>
    obtain ⟨n, v⟩ := e
    by_cases same : n = name
    · simp [put, same]
    · simp only [put, if_neg same, List.map_cons, ih, List.mem_cons, Ne.symm same, false_or]
      split
      · rfl
      · rfl

theorem names_prefix_insert (h : Headers) (name value : String) :
    h.names <+: (h.insert name value).names := by
  unfold names insert
  rw [names_put]
  split
  · exact List.prefix_rfl
  · exact List.prefix_append _ _

theorem names_prefix_set (h : Headers) (name value : String) :
    h.names <+: (h.set name value).names := by
  unfold set
  dsimp only
  split
  · exact names_prefix_insert h _ _
  · exact names_prefix_insert h _ _

end Headers

namespace Step

variable {r r' : Request} {s : Step}

def method? : Step → Option Method
  | select _ _ returning => some (if returning.truth then .get else .head)
  | insert .. | upsert .. => some .post
  | update .. => some .patch
  | delete .. => some .delete
  | _ => none

def rows? : Step → Option Value
  | insert data _ _ _ | upsert data _ _ _ | update data _ _ => some data
  | _ => none

def schema? : Step → Option Value
  | chooseSchema name => some name
  | _ => none

/-- The preferences that a step asks for, in their order. -/
def preferences : Step → Outcome (List String)
  | select _ count _ => do return [(← Count.coerce "select" count).preference]
  | insert _ onConflict returning count => do
    let returning ← Returning.coerce "insert" returning
    let count ← Count.coerce "insert" count
    let target ← Request.conflictTarget onConflict
    let merging := if target.isSome then [Request.mergeDuplicates] else []
    return [returning.preference, count.preference] ++ Request.conflictPreference target ++ merging
  | upsert _ onConflict returning count => do
    let returning ← Returning.coerce "upsert" returning
    let count ← Count.coerce "upsert" count
    let target ← Request.conflictTarget onConflict
    return [Request.mergeDuplicates, returning.preference, count.preference] ++
      Request.conflictPreference target
  | update _ returning count => do
    let returning ← Returning.coerce "update" returning
    return [returning.preference, (← Count.coerce "update" count).preference]
  | delete returning count => do
    let returning ← Returning.coerce "delete" returning
    return [returning.preference, (← Count.coerce "delete" count).preference]
  | rollback => .ok ["tx=rollback"]
  | returnRows _ => .ok [Returning.representation.preference]
  | _ => .ok []

/-- The headers after a step: other media types or more preferences, and never both. -/
inductive Retouches (s : Step) (h : Headers) : Headers → Prop where
  | nothing (quiet : s.preferences = .ok []) : Retouches s h h
  | accepted (quiet : s.preferences = .ok []) (text : String) :
      Retouches s h (h.replace Request.acceptName text)
  | preferred {asked : List String} {text : String} (wanted : s.preferences = .ok asked)
      (joined : text = commaJoin asked) : Retouches s h (h.set Headers.preferName text)

structure Parts (s : Step) (r r' : Request) : Prop where
  url : r'.url = r.url
  method : r'.method = s.method?.getD r.method
  body : r'.body = s.rows?.getD r.body
  schema : r'.schema = s.schema?.getD r.schema
  query : ∃ ws, s.writes = .ok ws ∧ r'.query = QueryWrite.run r.query ws
  headers : Retouches s r.headers r'.headers

theorem payload_ok {operation : String} {data rows : Value}
    (accepted : Request.payload operation data = .ok rows) : rows = data ∧ data ≠ .null := by
  simp only [Request.payload] at accepted
  obtain ⟨fit, same⟩ := accept_ok.mp accepted
  refine ⟨same.symm, ?_⟩
  rintro rfl
  cases fit

theorem post_ok {operation : String} {data : Value} {asked : List String} {target : Option String}
    (done : r.post operation data asked target = .ok r') :
    data ≠ .null ∧ r' = { r with
      method := .post, body := data
      query := QueryWrite.run r.query (target.map (.set "on_conflict")).toList
      headers := r.headers.set Headers.preferName (commaJoin asked) } := by
  simp only [Request.post, bind_ok, pure_ok] at done
  obtain ⟨rows, paid, rfl⟩ := done
  obtain ⟨rfl, written⟩ := payload_ok paid
  cases target with
  | none => exact ⟨written, rfl⟩
  | some columns => exact ⟨written, rfl⟩

/-- A step that only writes to the query. -/
theorem parts_of_writes {ws : List QueryWrite} {q : Query} (no_verb : s.method? = none)
    (no_rows : s.rows? = none) (no_schema : s.schema? = none) (quiet : s.preferences = .ok [])
    (written : s.writes = .ok ws) (ran : q = QueryWrite.run r.query ws) :
    s.Parts r { r with query := q } :=
  ⟨rfl, by rw [no_verb]; rfl, by rw [no_rows]; rfl, by rw [no_schema]; rfl, ⟨ws, written, ran⟩,
    .nothing quiet⟩

theorem parts_of_apply (done : s.apply r = .ok r') : s.Parts r r' := by
  cases takes : s.condition? with
  | some c =>
    rw [apply_of_condition takes] at done
    obtain ⟨c', given, restricted⟩ := bind_ok.mp done
    obtain ⟨ws, rendered, rfl⟩ := Request.restrict_ok.mp restricted
    have written : s.writes = .ok ws := by
      unfold writes
      rw [takes]
      exact bind_ok.mpr ⟨c', given, rendered⟩
    cases s with
    | filterBy _ | filterCompare _ _ _ | filterPatterns _ _ _ _ | filterIs _ _
    | filterCollection _ _ _ | filterSearch _ _ _ _ => exact parts_of_writes rfl rfl rfl rfl written rfl
    | _ => cases takes
  | none =>
    cases s with
    | select columns count returning =>
      simp only [apply, Request.select, bind_ok, pure_ok] at done
      obtain ⟨c, counted, text, listed, rfl⟩ := done
      have wanted : (select columns count returning).preferences = .ok [c.preference] :=
        bind_ok.mpr ⟨c, counted, rfl⟩
      exact ⟨rfl, rfl, rfl, rfl, ⟨_, bind_ok.mpr ⟨text, listed, rfl⟩, rfl⟩,
        .preferred wanted (joinWith_singleton "," _).symm⟩
    | insert data onConflict returning count =>
      simp only [apply, Request.insert, bind_ok] at done
      obtain ⟨back, represented, c, counted, target, chosen, posted⟩ := done
      obtain ⟨_, rfl⟩ := post_ok posted
      refine ⟨rfl, rfl, rfl, rfl, ⟨_, bind_ok.mpr ⟨target, chosen, rfl⟩, rfl⟩, .preferred ?_ rfl⟩
      simp only [preferences, represented, counted, chosen]
      rfl
    | upsert data onConflict returning count =>
      simp only [apply, Request.upsert, bind_ok] at done
      obtain ⟨back, represented, c, counted, target, chosen, posted⟩ := done
      obtain ⟨_, rfl⟩ := post_ok posted
      refine ⟨rfl, rfl, rfl, rfl, ⟨_, bind_ok.mpr ⟨target, chosen, rfl⟩, rfl⟩, .preferred ?_ rfl⟩
      simp only [preferences, represented, counted, chosen]
      rfl
    | update data returning count =>
      simp only [apply, Request.update, bind_ok, pure_ok] at done
      obtain ⟨back, represented, c, counted, rows, paid, rfl⟩ := done
      obtain ⟨rfl, _⟩ := payload_ok paid
      exact ⟨rfl, rfl, rfl, rfl, ⟨[], rfl, rfl⟩,
        .preferred (bind_ok.mpr ⟨back, represented, bind_ok.mpr ⟨c, counted, rfl⟩⟩) rfl⟩
    | delete returning count =>
      simp only [apply, Request.delete, bind_ok, pure_ok] at done
      obtain ⟨back, represented, c, counted, rfl⟩ := done
      exact ⟨rfl, rfl, rfl, rfl, ⟨[], rfl, rfl⟩,
        .preferred (bind_ok.mpr ⟨back, represented, bind_ok.mpr ⟨c, counted, rfl⟩⟩) rfl⟩
    | filterRaw column operator value =>
      simp only [apply, Request.filterRaw, bind_ok] at done
      obtain ⟨expression, accepted, text, shown, done⟩ := done
      obtain ⟨ws, stored, rfl⟩ := Request.replaceQuery_text_ok.mp done
      exact parts_of_writes rfl rfl rfl rfl
        (bind_ok.mpr ⟨expression, accepted, bind_ok.mpr ⟨text, shown, stored⟩⟩) rfl
    | filterNot column operator value =>
      simp only [apply, Request.filterNot, bind_ok] at done
      obtain ⟨expression, accepted, text, shown, done⟩ := done
      obtain ⟨ws, stored, rfl⟩ := Request.replaceQuery_text_ok.mp done
      exact parts_of_writes rfl rfl rfl rfl
        (bind_ok.mpr ⟨expression, accepted, bind_ok.mpr ⟨text, shown, stored⟩⟩) rfl
    | allOf conditions table =>
      simp only [apply, Request.allOf, bind_ok, pure_ok] at done
      obtain ⟨group, grouped, key, keyed, rfl⟩ := done
      exact parts_of_writes rfl rfl rfl rfl
        (bind_ok.mpr ⟨group, grouped, bind_ok.mpr ⟨key, keyed, rfl⟩⟩) rfl
    | anyOf conditions table =>
      simp only [apply, Request.anyOf, bind_ok, pure_ok] at done
      obtain ⟨group, grouped, key, keyed, rfl⟩ := done
      exact parts_of_writes rfl rfl rfl rfl
        (bind_ok.mpr ⟨group, grouped, bind_ok.mpr ⟨key, keyed, rfl⟩⟩) rfl
    | filterMatch equalities =>
      cases equalities with
      | map es =>
        obtain ⟨wss, rendered, rfl⟩ := Request.filterMatch_ok done
        exact parts_of_writes rfl rfl rfl rfl (bind_ok.mpr ⟨wss, rendered, rfl⟩) rfl
      | _ => cases done
    | chooseSchema name =>
      cases name with
      | text name =>
        simp only [apply, Request.chooseSchema] at done
        split at done
        · cases done
        · cases done
          exact ⟨rfl, rfl, rfl, rfl, ⟨[], rfl, rfl⟩, .nothing rfl⟩
      | _ => cases done
    | acceptNamed mediaType =>
      simp only [apply, Request.acceptNamed, bind_ok, pure_ok] at done
      obtain ⟨m, _, rfl⟩ := done
      exact ⟨rfl, rfl, rfl, rfl, ⟨[], rfl, rfl⟩, .accepted rfl m.token⟩
    | order column ascending nullsFirst table =>
      simp only [apply, Request.order, bind_ok, pure_ok] at done
      obtain ⟨name, named, key, keyed, rfl⟩ := done
      exact parts_of_writes rfl rfl rfl rfl
        (bind_ok.mpr ⟨name, named, bind_ok.mpr ⟨key, keyed, rfl⟩⟩) rfl
    | limit count table =>
      cases count with
      | int n =>
        simp only [apply, Request.limit, bind_ok, pure_ok] at done
        obtain ⟨key, keyed, text, shown, rfl⟩ := done
        exact parts_of_writes rfl rfl rfl rfl
          (bind_ok.mpr ⟨key, keyed, bind_ok.mpr ⟨text, shown, rfl⟩⟩) rfl
      | _ => cases done
    | range first last table =>
      simp only [apply, Request.range, bind_ok, pure_ok] at done
      obtain ⟨⟨start, count⟩, framed, startKey, start_keyed, countKey, count_keyed, startText,
        start_shown, countText, count_shown, rfl⟩ := done
      exact parts_of_writes rfl rfl rfl rfl (bind_ok.mpr ⟨(start, count), framed,
        bind_ok.mpr ⟨startKey, start_keyed, bind_ok.mpr ⟨countKey, count_keyed,
          bind_ok.mpr ⟨startText, start_shown, bind_ok.mpr ⟨countText, count_shown, rfl⟩⟩⟩⟩⟩) rfl
    | explain details format =>
      simp only [apply, Request.explain, bind_ok, pure_ok] at done
      obtain ⟨_, _, rfl⟩ := done
      exact ⟨rfl, rfl, rfl, rfl, ⟨[], rfl, rfl⟩, .accepted rfl _⟩
    | returnRows columns =>
      simp only [apply, Request.returnRows, bind_ok, pure_ok] at done
      obtain ⟨text, projected, rfl⟩ := done
      exact ⟨rfl, rfl, rfl, rfl, ⟨_, bind_ok.mpr ⟨text, projected, rfl⟩, rfl⟩,
        .preferred rfl (joinWith_singleton "," _).symm⟩
    | single | maybeSingle =>
      cases done
      exact ⟨rfl, rfl, rfl, rfl, ⟨[], rfl, rfl⟩, .accepted rfl _⟩
    | accept m =>
      cases done
      exact ⟨rfl, rfl, rfl, rfl, ⟨[], rfl, rfl⟩, .accepted rfl m.token⟩
    | rollback =>
      cases done
      exact ⟨rfl, rfl, rfl, rfl, ⟨[], rfl, rfl⟩, .preferred rfl (joinWith_singleton "," _).symm⟩
    | filterBy _ | filterCompare _ _ _ | filterPatterns _ _ _ _ | filterIs _ _
    | filterCollection _ _ _ | filterSearch _ _ _ _ => cases takes

/-- What a step does to the query is told by its writes. -/
theorem apply_query (done : s.apply r = .ok r') :
    ∃ ws, s.writes = .ok ws ∧ r'.query = QueryWrite.run r.query ws :=
  (parts_of_apply done).query

/-! ### Headers -/

section
variable {h h' : Headers}

theorem Retouches.names (touched : s.Retouches h h') : h.names <+: h'.names := by
  cases touched with
  | nothing _ => exact List.prefix_rfl
  | accepted _ text => exact Headers.names_prefix_insert h _ text
  | preferred _ _ => exact Headers.names_prefix_set h _ _

theorem Retouches.find?_other (touched : s.Retouches h h') {name : String}
    (no_accept : name ≠ Request.acceptName) (no_prefer : name ≠ Headers.preferName) :
    h'.find? name = h.find? name := by
  have accept_name : lower Request.acceptName = Request.acceptName := by decide
  have prefer_name : lower Headers.preferName = Headers.preferName := by decide
  cases touched with
  | nothing _ => rfl
  | accepted _ text => rw [Headers.find?_replace, accept_name, if_neg no_accept]
  | preferred _ _ => rw [Headers.find?_set, prefer_name, if_neg no_prefer]

end

end Step

/-! ### New requests -/

namespace Client

theorem request_ok {client : Client} {relation : Value} {r : Request}
    (started : client.request relation = .ok r) :
    ∃ name, relation = .text name ∧ name ≠ "" ∧ r = client.seed name := by
  unfold request at started
  split at started
  · rename_i name
    split at started
    · cases started
    · rename_i filled
      exact ⟨name, rfl, filled, (Except.ok.inj started).symm⟩
  · cases started

theorem seed_url (client : Client) (relation : String) :
    (client.seed relation).url = .text (client.relationUrl relation) := by rw [seed]

theorem seed_method (client : Client) (relation : String) :
    (client.seed relation).method = .get := by rw [seed]

theorem seed_headers (client : Client) (relation : String) :
    (client.seed relation).headers = client.seedHeaders := by rw [seed]

theorem seed_body (client : Client) (relation : String) :
    (client.seed relation).body = .null := by rw [seed]

end Client

end RestQuery
