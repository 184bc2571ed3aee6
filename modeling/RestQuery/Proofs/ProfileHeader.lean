import RestQuery.Proofs.PreparedUrl
import RestQuery.Proofs.StepParts

/-!
# The header that carries the schema

A request is sent with the schema that was chosen last, under the profile header for its final
method. All other headers are sent as they are, that of the other kind of method included.
-/

namespace RestQuery

open Text

namespace Client

theorem checkNonEmpty_ok {place s : String} {v : Value} (checked : checkNonEmpty place v = .ok s) :
    s ≠ "" := by
  unfold checkNonEmpty at checked
  cases read : checkText place v with
  | error found =>
    rw [read] at checked
    cases checked
  | ok text =>
    rw [read] at checked
    have decided : (if text = "" then .error [(place, .tooShort)] else .ok text : Checked String) =
        .ok s := checked
    split at decided
    · cases decided
    · rename_i filled
      cases decided
      exact filled

variable {settings : List (String × Value)} {client : Client}

/-- Settings describe a client when each of them passes its check and none is unknown. -/
theorem ofSettings_ok :
    ofSettings settings = .ok client ↔
      required settings "base_url" checkUrl = .ok client.baseUrl ∧
      required settings "api_key" checkText = .ok client.apiKey ∧
      optional settings (schemaSetting settings) defaultSchema checkNonEmpty = .ok client.schema ∧
      optional settings "auth_headers" [] checkHeaders = .ok client.authHeaders ∧
      optional settings "rest_path" defaultRestPath checkText = .ok client.restPath ∧
      unknownSettings settings = [] := by
  constructor
  · intro configured
    unfold ofSettings at configured
    dsimp only at configured
    split at configured
    · cases configured
      rename_i url key schema headers path known
      exact ⟨url, key, schema, headers, path, known⟩
    · cases configured
  · rintro ⟨url, key, schema, headers, path, known⟩
    simp only [ofSettings, url, key, schema, headers, path, known]

/-- Settings that pass their checks name a schema. -/
theorem schema_of_settings (configured : ofSettings settings = .ok client) : client.schema ≠ "" := by
  have named := (ofSettings_ok.mp configured).2.2.1
  unfold optional at named
  split at named
  · exact checkNonEmpty_ok named
  · rw [← Except.ok.inj named]
    decide

end Client

namespace Step

variable {r r' : Request} {s : Step}

theorem schema_of_apply {v : Value} (done : s.apply r = .ok r') (chosen : s.schema? = some v) :
    ∃ name, v = .text name ∧ name ≠ "" := by
  cases s with
  | chooseSchema name =>
    obtain rfl := Option.some.inj chosen
    cases name with
    | text name =>
      simp only [apply, Request.chooseSchema] at done
      split at done
      · cases done
      · rename_i filled
        exact ⟨name, rfl, filled⟩
    | _ => cases done
  | _ => cases chosen

theorem schema_advanceAll (r : Request) (steps : List Step) :
    (advanceAll r steps).schema =
      ((succeeded r steps).filterMap schema?).getLast?.getD r.schema :=
  last_advanceAll (·.schema) schema? fun _ _ _ _ done => (parts_of_apply done).schema

/-- Whichever schema is chosen last, it has a name. -/
theorem schema_of_run (r : Request) (steps : List Step)
    (start : ∃ name, r.schema = .text name ∧ name ≠ "") :
    ∃ name, (advanceAll r steps).schema = .text name ∧ name ≠ "" := by
  rw [schema_advanceAll]
  cases last : ((succeeded r steps).filterMap schema?).getLast? with
  | none => exact start
  | some v =>
    obtain ⟨s, ran, chosen⟩ := List.mem_filterMap.mp (List.mem_of_getLast? last)
    obtain ⟨_, _, done⟩ := apply_of_mem_succeeded ran
    exact schema_of_apply done chosen

end Step

namespace Request

variable {r : Request}

theorem profiled_of_schema {name : String} (named : r.schema = .text name) (filled : name ≠ "") :
    r.profiled = .ok (r.headers.replace r.method.profileHeader name) := by
  have given : r.schema.truth = true := by
    rw [named]
    simpa [Value.truth] using filled
  have shown : r.schema.display = .ok name := by
    rw [named]
    rfl
  rw [profiled, if_pos given, shown]
  rfl

end Request

theorem Method.lower_profileHeader (m : Method) : lower m.profileHeader = m.profileHeader := by
  cases m with
  | get | head | post | patch | delete => decide

namespace Step

/-- What is sent after a run names the schema that was chosen last, or else that of the client, in the
profile header for the final method, and has all other headers as the run left them. -/
theorem profile_of_run {settings : List (String × Value)} {client : Client} {relation : Value}
    {r : Request} (configured : Client.ofSettings settings = .ok client)
    (started : client.request relation = .ok r) (steps : List Step) {p : Prepared}
    (prepared : (advanceAll r steps).prepare = .ok p) :
    let final := advanceAll r steps
    let carrier :=
      if final.method = .get ∨ final.method = .head then "accept-profile" else "content-profile"
    ∃ name, ((succeeded r steps).filterMap schema?).getLast?.getD (.text client.schema) =
        .text name ∧
      p.headers.find? carrier = some name ∧
      (∀ other, other ≠ carrier → p.headers.find? other = final.headers.find? other) ∧
      p.method = final.method := by
  intro final carrier
  obtain ⟨relation, _, _, rfl⟩ := Client.request_ok started
  have start : (client.seed relation).schema = .text client.schema := rfl
  obtain ⟨name, named, filled⟩ := schema_of_run (client.seed relation) steps
    ⟨client.schema, start, Client.schema_of_settings configured⟩
  obtain ⟨_, _, headers, _, _, profiled, rfl⟩ := Request.prepare_ok.mp prepared
  have sent := Except.ok.inj ((Request.profiled_of_schema named filled).symm.trans profiled)
  have carried : final.method.profileHeader = carrier := by
    simp only [carrier]
    cases final.method with
    | get | head | post | patch | delete => rfl
  have found (key : String) : headers.find? key =
      if key = carrier then some name else final.headers.find? key := by
    rw [← sent, Headers.find?_replace, Method.lower_profileHeader]
    exact congrArg (fun c => if key = c then some name else final.headers.find? key) carried
  refine ⟨name, ?_, ?_, ?_, rfl⟩
  · rw [← start, ← schema_advanceAll, named]
  · rw [found, if_pos rfl]
  · intro other apart
    rw [found, if_neg apart]

/-- A header of the other kind that the client set itself is sent along. -/
theorem profile_of_run_rewritten :
    let settings : List (String × Value) :=
      [("base_url", .text "http://h/"), ("api_key", .text "k"), ("schema", .text "main"),
        ("auth_headers", .map [(.text "Accept-Profile", .text "x"),
          (.text "Content-Profile", .text "y")])]
    let client : Client := ⟨"http://h", "k", "main",
      [("Accept-Profile", "x"), ("Content-Profile", "y")], "/rest/v1"⟩
    let steps : List Step :=
      [.chooseSchema (.text "a"), .select (.text "*") (.text "exact") (.bool true),
        .chooseSchema (.text "b"), .chooseSchema (.text ""), .chooseSchema (.int 5),
        .update (.map []) (.text "minimal") (.text "exact"), .single]
    Client.ofSettings settings = .ok client ∧
    ∃ p, (advanceAll (client.seed "t") steps).prepare = .ok p ∧ p.method = .patch ∧
      p.headers.find? "content-profile" = some "b" ∧
      p.headers.find? "accept-profile" = some "x" ∧
      p.headers.find? "accept" = some "application/vnd.pgrst.object+json" := by
  intro settings client steps
  have configured : Client.ofSettings settings = .ok client := rfl
  have started : client.request (.text "t") = .ok (client.seed "t") := rfl
  have sendable : (advanceAll (client.seed "t") steps).prepare.toOption.isSome := by decide +kernel
  obtain ⟨p, prepared⟩ := Option.isSome_iff_exists.mp sendable
  obtain ⟨name, last, carried, others, method⟩ :=
    profile_of_run configured started steps (toOption_ok.mp prepared)
  have patched : (advanceAll (client.seed "t") steps).method = .patch := by decide +kernel
  have chosen : ((succeeded (client.seed "t") steps).filterMap schema?).getLast? =
      some (.text "b") := rfl
  rw [chosen] at last
  cases last
  rw [patched] at carried others method
  refine ⟨configured, p, toOption_ok.mp prepared, method, carried, ?_, ?_⟩
  · rw [others "accept-profile" (by decide)]
    decide +kernel
  · rw [others "accept" (by decide)]
    decide +kernel

end Step

end RestQuery
