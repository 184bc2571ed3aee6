import RestQuery.Proofs.HeaderEntries
import RestQuery.Proofs.JsonRoundTrip
import RestQuery.Proofs.ProfileHeader
import RestQuery.Session

/-!
# Equal requests and their fingerprints

Headers are compared as a map and fingerprinted in the order of their names. As no name stands
twice, requests are equal when their fingerprints and bodies are: `same_iff_fingerprint`. Drafts of
a session that are equal share their fingerprint, whatever was done to them: `Session.run_coheres`.
-/

namespace RestQuery

open Text

theorem Step.Retouches.normal {s : Step} {h h' : Headers} (touched : s.Retouches h h')
    (normal : h.Normal) : h'.Normal := by
  cases touched with
  | nothing _ => exact normal
  | accepted _ text => exact Headers.normal_replace normal _ text
  | preferred _ _ => exact Headers.normal_set normal _ _

/-! ### Requests -/

/-- The value of a schema: a text, or null for none. -/
def Value.IsSchema (v : Value) : Prop := v = .null ∨ v.IsText

theorem Value.same_iff_eq {v w : Value} (schema : v.IsSchema) (schema' : w.IsSchema) :
    v.same w = true ↔ v = w := by
  rcases schema with rfl | ⟨s⟩ | ⟨ps⟩ <;> rcases schema' with rfl | ⟨s'⟩ | ⟨ps'⟩ <;>
    simp [Value.same, Value.quantity?]

theorem Value.same_digest {v : Value} (schema : v.IsSchema) : v.digest.same v.digest = true := by
  rcases schema with rfl | ⟨s⟩ | ⟨ps⟩
  · rfl
  · exact Digest.same_ofText s
  · exact Digest.same_ofBytes _

namespace Request

/-- A request to a URL that is a text, with headers as every request has them and a schema that is a
text, if there is one. -/
structure Regular (r : Request) : Prop where
  url : r.url.IsText
  schema : r.schema.IsSchema
  headers : r.headers.Normal

variable {a b r r' : Request}

/-- The requests that can be made are those with such headers. -/
theorem exists_create_iff :
    (∃ url method query headers body schema,
      create url method query headers body schema = .ok r) ↔ r.headers.Normal := by
  constructor
  · rintro ⟨_, _, _, _, _, _, created⟩
    exact create_normal created
  · intro normal
    have mapped : Headers.ofValue (.map (r.headers.entries.map fun e => (.text e.1, .text e.2))) =
        .ok r.headers := by
      refine bind_ok.mpr ⟨r.headers.entries, ?_, congrArg _ (Headers.ofEntries_entries normal)⟩
      apply mapM_undoes
      exact fun _ => rfl
    have listed : Query.ofValue
        (.tuple (r.query.entries.map fun e => .tuple [.text e.1, .text e.2])) = .ok r.query := by
      refine bind_ok.mpr ⟨r.query.entries, ?_, rfl⟩
      apply mapM_undoes
      exact fun _ => rfl
    exact ⟨r.url, .member (.method r.method), _, _, r.body, r.schema, by
      rw [create, mapped, listed]
      rfl⟩

/-- The fingerprint leaves out the order of the headers and the body, and nothing else. -/
theorem fingerprint_eq_iff (normal : a.headers.Normal) (normal' : b.headers.Normal) :
    a.fingerprint = b.fingerprint ↔ a.url = b.url ∧ a.method = b.method ∧ a.query = b.query ∧
      (∀ name, a.headers.find? name = b.headers.find? name) ∧ a.schema = b.schema := by
  have entries : a.query.entries = b.query.entries ↔ a.query = b.query :=
    ⟨fun same => congrArg Query.mk same, congrArg Query.entries⟩
  rw [← Headers.sorted_eq_iff normal.1 normal'.1, ← entries]
  simp only [fingerprint, Fingerprint.mk.injEq]

section
variable (regular : a.Regular) (regular' : b.Regular)
include regular regular'

theorem fingerprint_same_iff :
    a.fingerprint.same b.fingerprint = true ↔ a.fingerprint = b.fingerprint := by
  have urls := Value.same_iff_eq (.inr regular.url) (.inr regular'.url)
  have schemas := Value.same_iff_eq regular.schema regular'.schema
  simp only [Fingerprint.same, fingerprint, Bool.and_eq_true, beq_iff_eq, urls, schemas,
    Fingerprint.mk.injEq, and_assoc]

/-- Equal requests are those with the same fingerprint and equal bodies. -/
theorem same_iff_fingerprint :
    a.same b = true ↔ a.fingerprint = b.fingerprint ∧ a.body.same b.body = true := by
  have urls := Value.same_iff_eq (.inr regular.url) (.inr regular'.url)
  have schemas := Value.same_iff_eq regular.schema regular'.schema
  have headers := Headers.same_iff regular.headers.1 regular'.headers.1
  simp only [fingerprint_eq_iff regular.headers regular'.headers, Request.same, sameHead,
    Bool.and_eq_true, beq_iff_eq, urls, schemas, headers, and_assoc]

end

theorem checkKeys_of_regular (regular : r.Regular) : r.checkKeys = .ok () := by
  have key {v : Value} (schema : v.IsSchema) : v.isKey = true := by
    rcases schema with rfl | ⟨s⟩ | ⟨ps⟩ <;> rfl
  simp [checkKeys, key (.inr regular.url), key regular.schema]

/-! ### Updates of the headers -/

/-- Only the headers differ, and they are as headers should be if they were. -/
structure Reheads (r r' : Request) : Prop where
  rest : r' = { r with headers := r'.headers }
  normal : r.headers.Normal → r'.headers.Normal

theorem Reheads.refl (r : Request) : Reheads r r := ⟨rfl, id⟩

theorem Reheads.trans {r'' : Request} (first : Reheads r r') (second : Reheads r' r'') :
    Reheads r r'' := by
  refine ⟨?_, second.normal ∘ first.normal⟩
  rw [second.rest, first.rest]

theorem reheads_foldlM {α : Type} {f : Request → α → Outcome Request} {es : List α}
    (each : ∀ e ∈ es, ∀ r r', f r e = .ok r' → Reheads r r') (done : es.foldlM f r = .ok r') :
    Reheads r r' := by
  induction es generalizing r with
  | nil =>
    obtain rfl := pure_ok.mp done
    exact .refl r
  | cons e es ih =>
    rw [List.foldlM_cons, bind_ok] at done
    obtain ⟨next, first, later⟩ := done
    obtain ⟨here, rest⟩ := List.forall_mem_cons.mp each
    exact (here r next first).trans (ih rest later)

theorem reheads_of_put {put : Headers → String → String → Headers} {name value : Value}
    (keeps : ∀ h name text, h.Normal → (put h name text).Normal)
    (done : r.putHeader put name value = .ok r') : Reheads r r' := by
  unfold putHeader at done
  split at done
  · cases done
    exact .refl r
  · simp only [bind_ok, pure_ok] at done
    obtain ⟨name, _, text, _, rfl⟩ := done
    exact ⟨rfl, keeps r.headers name text⟩

theorem reheads_of_set {name value : Value} (done : r.withHeader name value = .ok r') :
    Reheads r r' :=
  reheads_of_put (fun _ name text normal => Headers.normal_set normal name text) done

end Request

/-- The updates of the headers alone. -/
inductive Update.OnHeaders : Update → Prop where
  | set (name value : Value) : OnHeaders (.setHeader name value)
  | setAll (headers : Value) : OnHeaders (.setHeaders headers)
  | replace (name value : Value) : OnHeaders (.replaceHeader name value)
  | erase (name : Value) : OnHeaders (.eraseHeader name)

namespace Request

variable {a b r r' : Request} {u : Update}

theorem reheads_of_update (headers : u.OnHeaders) (done : u.apply r = .ok r') : Reheads r r' := by
  cases headers with
  | set name value => exact reheads_of_set done
  | setAll given =>
    cases given with
    | map es => exact reheads_foldlM (fun e _ r r' set => reheads_of_set set) done
    | _ => cases done
  | replace name value =>
    exact reheads_of_put (fun _ name text normal => Headers.normal_replace normal name text) done
  | erase name =>
    cases name with
    | text name =>
      cases done
      exact ⟨rfl, fun normal => Headers.normal_erase normal name⟩
    | bytes bs =>
      cases done
      exact .refl r
    | _ => cases done

/-- Updates of the headers that come to the same texts come to the same fingerprint. -/
theorem fingerprint_of_updates (normal : a.headers.Normal) {us us' : List Update}
    (headers : ∀ u ∈ us ++ us', u.OnHeaders) (done : us.foldlM Update.apply a = .ok r)
    (done' : us'.foldlM Update.apply a = .ok r')
    (shared : ∀ name, r.headers.find? name = r'.headers.find? name) :
    r.fingerprint = r'.fingerprint := by
  obtain ⟨first, second⟩ := List.forall_mem_append.mp headers
  have reached := reheads_foldlM (fun u member _ _ => reheads_of_update (first u member)) done
  have reached' := reheads_foldlM (fun u member _ _ => reheads_of_update (second u member)) done'
  rw [fingerprint_eq_iff (reached.normal normal) (reached'.normal normal), reached.rest,
    reached'.rest]
  exact ⟨rfl, rfl, rfl, shared, rfl⟩

theorem putQuery_ok {put : Query → String → String → Query} {key value : Value}
    (done : r.putQuery put key value = .ok r') : ∃ q, r' = { r with query := q } := by
  unfold putQuery at done
  split at done
  · cases done
    exact ⟨r.query, rfl⟩
  · obtain ⟨text, _, done⟩ := bind_ok.mp done
    split at done
    · cases done
      exact ⟨_, rfl⟩
    · obtain ⟨key, _, done⟩ := bind_ok.mp done
      cases done
      exact ⟨_, rfl⟩

theorem regular_of_update (regular : r.Regular) (schema : ∀ v, u = .schema v → v.IsSchema)
    (done : u.apply r = .ok r') : r'.Regular := by
  obtain ⟨url, kept, normal⟩ := regular
  have of_query {put : Query → String → String → Query} {key value : Value}
      (done : r.putQuery put key value = .ok r') : r'.Regular := by
    obtain ⟨q, rfl⟩ := putQuery_ok done
    exact ⟨url, kept, normal⟩
  have of_headers (headers : u.OnHeaders) : r'.Regular := by
    have reheads := reheads_of_update headers done
    rw [reheads.rest]
    exact ⟨url, kept, reheads.normal normal⟩
  cases u with
  | method m =>
    obtain ⟨method, _, rfl⟩ := by simpa only [Update.apply, withMethod, bind_ok, pure_ok] using done
    exact ⟨url, kept, normal⟩
  | mergeQuery key value => exact of_query done
  | replaceQuery key value => exact of_query done
  | eraseQuery key =>
    cases done
    cases key with
    | text key => exact ⟨url, kept, normal⟩
    | _ => exact ⟨url, kept, normal⟩
  | setHeader name value => exact of_headers (.set name value)
  | setHeaders given => exact of_headers (.setAll given)
  | replaceHeader name value => exact of_headers (.replace name value)
  | eraseHeader name => exact of_headers (.erase name)
  | body v =>
    cases done
    exact ⟨url, kept, normal⟩
  | schema v =>
    cases done
    exact ⟨url, schema v rfl, normal⟩

theorem regular_of_step {s : Step} (regular : r.Regular) (done : s.apply r = .ok r') :
    r'.Regular := by
  have parts := Step.parts_of_apply done
  refine ⟨parts.url ▸ regular.url, ?_, ?_⟩
  · rw [parts.schema]
    cases chosen : s.schema? with
    | none => exact regular.schema
    | some v =>
      obtain ⟨name, rfl, _⟩ := Step.schema_of_apply done chosen
      exact .inr (.text name)
  · exact parts.headers.normal regular.headers

theorem regular_of_change {c : Change} (regular : r.Regular)
    (schema : ∀ v, c = .update (.schema v) → v.IsSchema) (done : c.apply r = .ok r') :
    r'.Regular := by
  cases c with
  | step s => exact regular_of_step regular done
  | update u => exact regular_of_update regular (fun v named => schema v (congrArg _ named)) done

/-- Drafts of requests with one fingerprint are told to be alike, whenever they were changed. -/
theorem sameFingerprint_of_fingerprint (regular : a.Regular)
    (alike : a.fingerprint = b.fingerprint) (bodyTurn schemaTurn bodyTurn' schemaTurn' : Nat) :
    Draft.sameFingerprint ⟨a, bodyTurn, schemaTurn⟩ ⟨b, bodyTurn', schemaTurn'⟩ = true := by
  obtain ⟨_, method, query, headers, schema⟩ := Fingerprint.mk.inj alike
  have queries : a.query = b.query := congrArg Query.mk query
  have digests := Value.same_digest regular.schema
  rw [schema] at digests
  simp [Draft.sameFingerprint, Draft.sameSchemaDigest, method, queries, headers, schema, digests]

/-- Requests whose URLs and schemas are texts have fingerprints. They are equal just when their
fingerprints and bodies are, and their fingerprints are equal just when all but the bodies is, the
headers in any order. Updates of the headers that come to the same texts come to one fingerprint. -/
theorem fingerprint_coherent (regular : a.Regular) (regular' : b.Regular) :
    a.checkKeys = .ok () ∧
    (a.same b = true ↔
      a.fingerprint.same b.fingerprint = true ∧ a.body.same b.body = true) ∧
    (a.fingerprint.same b.fingerprint = true ↔ a.fingerprint = b.fingerprint) ∧
    (a.fingerprint = b.fingerprint ↔ a.url = b.url ∧ a.method = b.method ∧ a.query = b.query ∧
      (∀ name, a.headers.find? name = b.headers.find? name) ∧ a.schema = b.schema) ∧
    (∀ (us us' : List Update) (r r' : Request), (∀ u ∈ us ++ us', u.OnHeaders) →
      us.foldlM Update.apply a = .ok r → us'.foldlM Update.apply a = .ok r' →
      (∀ name, r.headers.find? name = r'.headers.find? name) → r.fingerprint = r'.fingerprint) ∧
    (∀ body, (a.withBody body).fingerprint = a.fingerprint) ∧
    (a.fingerprint = b.fingerprint → ∀ t u t' u' : Nat,
      Draft.sameFingerprint ⟨a, t, u⟩ ⟨b, t', u'⟩ = true) := by
  have agree := fingerprint_same_iff regular regular'
  refine ⟨checkKeys_of_regular regular, ?_, agree,
    fingerprint_eq_iff regular.headers regular'.headers, ?_, fun _ => rfl,
    sameFingerprint_of_fingerprint regular⟩
  · rw [agree]
    exact same_iff_fingerprint regular regular'
  · exact fun us us' r r' headers done done' shared =>
      fingerprint_of_updates regular.headers headers done done' shared

/-- Headers given in two orders and in other letters, and bodies that differ. -/
theorem fingerprint_coherent_orders :
    let a : Request := { url := .text "u", schema := .text "s", body := .list [.int 1],
                         headers := .ofEntries [("Accept", "*/*"), ("X-Id", "1")] }
    let b : Request := { a with headers := .ofEntries [("X-ID", "1"), ("accept", "*/*")],
                                body := .null }
    let us : List Update := [.setHeader (.text "Prefer") (.text "p"),
      .eraseHeader (.text "ACCEPT"), .setHeader (.text "Y") (.int 2)]
    let us' : List Update := [.replaceHeader (.text "y") (.text "2"),
      .setHeaders (.map [(.text "prefer", .text "p,p")]), .eraseHeader (.text "accept")]
    a.Regular ∧ b.Regular ∧ a.headers ≠ b.headers ∧ a.fingerprint.same b.fingerprint = true ∧
      a.same b = false ∧ (a.withBody .null).same b = true ∧
      ∃ r r', us.foldlM Update.apply a = .ok r ∧ us'.foldlM Update.apply a = .ok r' ∧
        r.headers ≠ r'.headers ∧ r.fingerprint = r'.fingerprint := by
  intro a b us us'
  have regular : a.Regular := ⟨.text "u", .inr (.text "s"), Headers.normal_ofEntries _⟩
  have regular' : b.Regular := ⟨.text "u", .inr (.text "s"), Headers.normal_ofEntries _⟩
  obtain ⟨_, _, agree, parts, chains, _, _⟩ := fingerprint_coherent regular regular'
  have shared := (Headers.perm_iff regular.headers.1 regular'.headers.1).mp (by decide +kernel)
  refine ⟨regular, regular', by decide +kernel, agree.mpr (parts.mpr ⟨rfl, rfl, rfl, shared, rfl⟩),
    by decide +kernel, by decide +kernel, _, _, rfl, rfl, by decide +kernel, ?_⟩
  refine chains us us' _ _ ?_ rfl rfl ?_
  · simp only [us, us', List.cons_append, List.nil_append, List.forall_mem_cons]
    exact ⟨.set .., .erase .., .set .., .replace .., .setAll .., .erase .., List.forall_mem_nil _⟩
  · exact (Headers.perm_iff (by decide +kernel) (by decide +kernel)).mp (by decide +kernel)

end Request

/-! ### Sessions -/

theorem Draft.sameFingerprint_of_same {d e : Draft} (regular : d.request.Regular)
    (regular' : e.request.Regular) (same : d.same e = true) : d.sameFingerprint e = true := by
  have sorted := Headers.sorted_eq_iff regular.headers.1 regular'.headers.1
  have headers := Headers.same_iff regular.headers.1 regular'.headers.1
  have schemas := Value.same_iff_eq regular.schema regular'.schema
  simp only [Draft.same, Request.sameHead, sameSchema, Bool.and_eq_true, Bool.or_eq_true,
    beq_iff_eq, headers, schemas] at same
  obtain ⟨⟨⟨⟨method, query⟩, mapping⟩, schema⟩, _⟩ := same
  have digests : d.sameSchemaDigest e = true := by
    rw [sameSchemaDigest, Bool.or_eq_true, beq_iff_eq]
    refine schema.imp id fun alike => ?_
    rw [← alike]
    exact Value.same_digest regular.schema
  simp only [sameFingerprint, method, query, sorted.mpr mapping, digests, BEq.rfl, Bool.and_self]

/-- A schema that an action puts in place of another is null or a text. -/
def Action.KeepsSchema (action : Action) : Prop :=
  ∀ v, action = .change (.update (.schema v)) → v.IsSchema

namespace Session

/-- The drafts at hand are all regular. -/
structure Regular (s : Session) : Prop where
  current : s.current.request.Regular
  saved : ∀ d ∈ s.saved, d.2.request.Regular

variable {s s' : Session}

theorem draft_ok {name : String} {d : Draft} (found : s.draft name = .ok d) :
    (name, d) ∈ s.saved := by
  unfold draft at found
  split at found
  · rename_i d' kept
    cases found
    obtain ⟨before, after, split, _⟩ := List.lookup_eq_some_iff.mp kept
    rw [split]
    exact List.mem_append_right _ List.mem_cons_self
  · cases found

/-- An answer that finds two drafts equal finds their fingerprints equal. -/
def Coheres (answer : Answer) : Prop := ∀ alike, answer = .comparison true alike → alike = true

theorem perform_coheres (regular : s.Regular) {action : Action} (keeps : action.KeepsSchema)
    {answer : Answer} (done : s.perform action = .ok (answer, s')) :
    s'.Regular ∧ Coheres answer := by
  obtain ⟨current, saved⟩ := regular
  cases action with
  | change c =>
    simp only [perform, Draft.change, bind_ok, pure_ok] at done
    obtain ⟨_, ⟨r, changed, rfl⟩, done⟩ := done
    cases done
    have kept : ∀ v, c = .update (.schema v) → v.IsSchema := fun v named => keeps v (named ▸ rfl)
    exact ⟨⟨Request.regular_of_change current kept changed, saved⟩, nofun⟩
  | read what =>
    obtain ⟨_, _, done⟩ := bind_ok.mp done
    cases done
    exact ⟨⟨current, saved⟩, nofun⟩
  | save name =>
    cases done
    refine ⟨⟨current, List.forall_mem_cons.mpr ⟨current, fun d member => ?_⟩⟩, nofun⟩
    exact saved d (List.mem_of_mem_filter member)
  | load name =>
    obtain ⟨d, found, done⟩ := bind_ok.mp done
    cases done
    exact ⟨⟨saved _ (draft_ok found), saved⟩, nofun⟩
  | compare name =>
    simp only [perform, compare, bind_ok, pure_ok] at done
    obtain ⟨d, found, _, ⟨_, _, _, _, rfl⟩, done⟩ := done
    cases done
    refine ⟨⟨current, saved⟩, fun alike answered => ?_⟩
    injection answered with same alike
    rw [← alike]
    exact Draft.sameFingerprint_of_same current (saved _ (draft_ok found)) same

theorem step_coheres (regular : s.Regular) {action : Outcome Action}
    (keeps : ∀ a, action = .ok a → a.KeepsSchema) :
    (s.step action).2.Regular ∧ ∀ answer, (s.step action).1 = .ok answer → Coheres answer := by
  have next : { s with turn := s.turn + 1 }.Regular := ⟨regular.current, regular.saved⟩
  unfold step
  dsimp only
  split
  · rename_i answer after done
    obtain ⟨a, rfl, performed⟩ := bind_ok.mp done
    obtain ⟨kept, coheres⟩ := perform_coheres next (keeps a rfl) performed
    refine ⟨kept, fun answer' same => ?_⟩
    cases same
    exact coheres
  · exact ⟨next, nofun⟩

/-- Whenever a session finds two drafts equal, it finds their fingerprints equal. -/
theorem run_coheres (regular : s.Regular) {actions : List (Outcome Action)}
    (keeps : ∀ a, .ok a ∈ actions → a.KeepsSchema) :
    ∀ answer, .ok answer ∈ (s.run actions).1 → Coheres answer := by
  induction actions generalizing s with
  | nil => exact fun _ => nofun
  | cons action rest ih =>
    obtain ⟨kept, here⟩ := step_coheres regular fun a same => keeps a (same ▸ List.mem_cons_self)
    intro answer given
    rw [run] at given
    rcases List.mem_cons.mp given with first | later
    · exact here answer first.symm
    · exact ih kept (fun a member => keeps a (List.mem_cons_of_mem _ member)) answer later

end Session

end RestQuery
