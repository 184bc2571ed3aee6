import Mathlib.Data.List.Forall2
import RestQuery.Proofs.ReplyQueue

/-!
# Settings and tracers leave everything else alone

Two executors that differ in their settings and tracers do the same for all events: their
transports and logs stay the same, and so do their spans if both record them. Only a refusal comes
to the caller in another way, as a part of the response or as a fault: `run_differs_in_delivery`.
-/

namespace RestQuery

/-- Results of one event where refusals are a part of the response, and where they are faults. -/
inductive Delivers : Outcome (Option Response) → Outcome (Option Response) → Prop where
  | same {x : Outcome (Option Response)} (accepted : ∀ r, x = .ok (some r) → r.refusal = none) :
      Delivers x x
  | refused {r : Response} {report : ErrorReport} (found : r.refusal = some report)
      (status : report.status = r.status) : Delivers (.ok (some r)) (.error (.refused report))

/-- A response with a refusal. -/
def isRefused : Outcome (Option Response) → Bool
  | .ok (some r) => r.refusal.isSome
  | _ => false

/-- Results of one event under two settings for refusals. -/
def Agree : Bool → Bool → Outcome (Option Response) → Outcome (Option Response) → Prop
  | false, true => Delivers
  | true, false => flip Delivers
  | _, _ => Eq

theorem agree_of_delivers (result : Bool → Outcome (Option Response))
    (delivers : Delivers (result false) (result true)) (raising raising' : Bool) :
    Agree raising raising' (result raising) (result raising') := by
  cases raising <;> cases raising'
  · rfl
  · exact delivers
  · exact delivers
  · rfl

theorem agree_none (raising raising' : Bool) : Agree raising raising' (.ok none) (.ok none) :=
  agree_of_delivers (fun _ => .ok none) (.same (by rintro _ ⟨⟩)) raising raising'

theorem delivers_error (f : Fault) : Delivers (.error f) (.error f) := .same (by rintro _ ⟨⟩)

theorem agree_error (f : Fault) (raising raising' : Bool) :
    Agree raising raising' (.error f) (.error f) :=
  agree_of_delivers (fun _ => .error f) (delivers_error f) raising raising'

/-- A refusal that one result returns is raised by the other. -/
theorem Delivers.raised {x y : Outcome (Option Response)} (delivers : Delivers x y)
    (refused : isRefused x = true) :
    ∃ r report, x = .ok (some r) ∧ r.refusal = some report ∧ y = .error (.refused report) := by
  cases delivers with
  | @refused r report found => exact ⟨r, report, rfl, found, rfl⟩
  | same accepted =>
    match x with
    | .ok (some r) =>
      rw [isRefused, accepted r rfl] at refused
      cases refused

theorem exists_raised {xs ys : List (Outcome (Option Response))}
    (results : List.Forall₂ Delivers xs ys) (refused : xs.any isRefused = true) :
    ∃ r report, .ok (some r) ∈ xs ∧ r.refusal = some report ∧ .error (.refused report) ∈ ys := by
  induction results with
  | nil => cases refused
  | @cons x y xs ys delivers _ ih =>
    rw [List.any_cons, Bool.or_eq_true] at refused
    rcases refused with refused | refused
    · obtain ⟨r, report, rfl, found, rfl⟩ := delivers.raised refused
      exact ⟨r, report, List.mem_cons_self, found, List.mem_cons_self⟩
    · obtain ⟨r, report, returned, found, raised⟩ := ih refused
      exact ⟨r, report, List.mem_cons_of_mem _ returned, found, List.mem_cons_of_mem _ raised⟩

/-! ### Refusals -/

theorem refusal_status {raw : RawResponse} {r : Response} {report : ErrorReport}
    (decoded : Response.decode raw = .ok r) (found : r.refusal = some report) :
    report.status = r.status := by
  simp only [Response.decode, bind_ok, pure_ok] at decoded
  obtain ⟨count, _, data, _, refusal, refused, rfl⟩ := decoded
  rw [Response.refusalOf] at refused
  split at refused
  · obtain ⟨body, _, refused⟩ := bind_ok.mp refused
    obtain ⟨report', reported, refused⟩ := bind_ok.mp refused
    obtain ⟨code, _, made⟩ := bind_ok.mp reported
    cases pure_ok.mp made
    cases pure_ok.mp refused
    cases found
    rfl
  · cases refused
    cases found

theorem delivers_outcome (reply : Reply) :
    Delivers ((reply.outcome false).map some) ((reply.outcome true).map some) := by
  cases reply with
  | breakdown b => exact delivers_error b.fault
  | response raw =>
    cases decoded : Response.decode raw with
    | error f =>
      rw [Reply.outcome, Reply.outcome, decoded]
      exact delivers_error f
    | ok r =>
      rw [Reply.outcome, Reply.outcome, decoded]
      cases found : r.refusal with
      | none =>
        have delivered (raising : Bool) : r.deliver raising = .ok r := by
          rw [Response.deliver, found]
        simp only [bind, Except.bind, delivered]
        refine .same ?_
        rintro _ ⟨⟩
        exact found
      | some report =>
        have quiet : r.deliver false = .ok r := by
          rw [Response.deliver, found]
          rfl
        have loud : r.deliver true = .error (.refused report) := by
          rw [Response.deliver, found]
          rfl
        simp only [bind, Except.bind, quiet, loud]
        exact .refused found (refusal_status decoded found)

theorem agree_outcome (reply : Reply) (raising raising' : Bool) :
    Agree raising raising' ((reply.outcome raising).map some) ((reply.outcome raising').map some) :=
  agree_of_delivers (fun b => (reply.outcome b).map some) (delivers_outcome reply) raising raising'

/-! ### One exchange -/

namespace Exchange

variable (settings settings' : Settings) (spanned spanned' : Bool) (t : Transport) (r : Request)
  (relation : String)

/-- What an exchange sends and logs does not depend on settings and spans, and what it tells a span
not on settings. -/
theorem run_alike :
    let x := run settings spanned t r relation
    let x' := run settings' spanned' t r relation
    x.transport = x'.transport ∧ x.records = x'.records ∧
      (spanned = spanned' → x.gained = x'.gained) := by
  cases prepared : r.prepare with
  | error f =>
    rw [run_of_error prepared, run_of_error prepared]
    exact ⟨rfl, rfl, fun _ => rfl⟩
  | ok p =>
    rcases sent : t.send p with ⟨reply, t'⟩
    cases reply with
    | breakdown b => simp [run, prepared, sent]
    | response raw =>
      cases decoded : Response.decode raw with
      | error f =>
        simp only [run, prepared, sent, decoded]
        refine ⟨trivial, trivial, ?_⟩
        rintro rfl
        rfl
      | ok response =>
        simp only [run, prepared, sent, decoded]
        refine ⟨trivial, trivial, ?_⟩
        rintro rfl
        rfl

theorem result_agree :
    Agree settings.raiseOnError settings'.raiseOnError
      ((run settings spanned t r relation).result.map some)
      ((run settings' spanned' t r relation).result.map some) := by
  cases prepared : r.prepare with
  | error f =>
    rw [run_of_error prepared, run_of_error prepared]
    exact agree_error f _ _
  | ok p =>
    rw [(run_of_ok prepared).1, (run_of_ok prepared).1]
    exact agree_outcome _ _ _

end Exchange

/-! ### Two executors -/

namespace Executor

/-- Two executors with the same requests, replies and records, and the same spans if both record. -/
structure Alike (e e' : Executor) : Prop where
  transport : e.transport = e'.transport
  records : e.records = e'.records
  spans : e.tracer = .recording → e'.tracer = .recording → e.spans = e'.spans

variable {e e' : Executor}

namespace Alike

theorem log (alike : Alike e e') (records : List Record) : Alike (e.log records) (e'.log records) :=
  ⟨alike.transport, congrArg (· ++ records) alike.records, alike.spans⟩

theorem enqueue (alike : Alike e e') (reply : Reply) : Alike (e.enqueue reply) (e'.enqueue reply) :=
  ⟨congrArg (·.enqueue reply) alike.transport, alike.records, alike.spans⟩

theorem clear (alike : Alike e e') : Alike e.clear e'.clear := ⟨rfl, alike.records, alike.spans⟩

theorem execute (alike : Alike e e') (r : Request) :
    Alike (e.execute r).2 (e'.execute r).2 ∧
      Agree e.settings.raiseOnError e'.settings.raiseOnError ((e.execute r).1.map some)
        ((e'.execute r).1.map some) := by
  unfold Executor.execute
  cases r.relation with
  | error f => exact ⟨alike, agree_error f _ _⟩
  | ok relation =>
    rw [alike.transport]
    obtain ⟨transport, records, gained⟩ := Exchange.run_alike e.settings e'.settings
      e.tracer.enabled e'.tracer.enabled e'.transport r relation
    refine ⟨⟨transport, congrArg₂ _ alike.records records, ?_⟩, Exchange.result_agree ..⟩
    intro recording recording'
    have enabled : e.tracer.enabled = e'.tracer.enabled := by rw [recording, recording']
    show e.spans ++ _ = e'.spans ++ _
    rw [if_pos recording, if_pos recording', alike.spans recording recording', gained enabled]

theorem step (alike : Alike e e') (event : Event) :
    Alike (e.step event).2 (e'.step event).2 ∧
      Agree e.settings.raiseOnError e'.settings.raiseOnError (e.step event).1
        (e'.step event).1 := by
  cases event with
  | enqueue reply => exact ⟨alike.enqueue reply, agree_none _ _⟩
  | clear => exact ⟨alike.clear, agree_none _ _⟩
  | respond status payload headers =>
    rw [Executor.step, Executor.step]
    cases RawResponse.json status payload headers with
    | error f => exact ⟨alike, agree_error f _ _⟩
    | ok raw => exact ⟨alike.enqueue _, agree_none _ _⟩
  | execute r => exact alike.execute r
  | perform start changes =>
    rw [Executor.step, Executor.step, buildAndExecute, buildAndExecute]
    rcases Request.build start changes with ⟨built, records⟩
    cases built with
    | error f => exact ⟨alike.log records, agree_error f _ _⟩
    | ok r => exact (alike.log records).execute r

theorem run (alike : Alike e e') (events : List Event) :
    Alike (e.run events).2 (e'.run events).2 ∧
      List.Forall₂ (Agree e.settings.raiseOnError e'.settings.raiseOnError) (e.run events).1
        (e'.run events).1 := by
  induction events generalizing e e' with
  | nil => exact ⟨alike, .nil⟩
  | cons event events ih =>
    obtain ⟨stepped, result⟩ := alike.step event
    obtain ⟨final, results⟩ := ih stepped
    rw [(fixed_step e event).1, (fixed_step e' event).1] at results
    exact ⟨final, .cons result results⟩

end Alike

/-- From transports, logs and spans that are the same, all events leave the same requests, number of
pending replies and records, and the same spans if both tracers record. Results agree: they are the
same but for refusals, which one executor returns and the other raises. -/
theorem run_differs_in_delivery (transport : e.transport = e'.transport)
    (records : e.records = e'.records) (spans : e.spans = e'.spans) (events : List Event) :
    let last := (e.run events).2
    let last' := (e'.run events).2
    last.transport.requests = last'.transport.requests ∧
      last.transport.pending = last'.transport.pending ∧
      last.records = last'.records ∧
      (e.tracer = .recording → e'.tracer = .recording → last.spans = last'.spans) ∧
      List.Forall₂ (Agree e.settings.raiseOnError e'.settings.raiseOnError) (e.run events).1
        (e'.run events).1 := by
  intro last last'
  have alike : Alike e e' := ⟨transport, records, fun _ _ => spans⟩
  obtain ⟨final, results⟩ := alike.run events
  refine ⟨congrArg _ final.transport, congrArg _ final.transport, final.records, ?_, results⟩
  intro recording recording'
  have tracer : (e.run events).2.tracer = e.tracer := (fixed_run e events).2
  have tracer' : (e'.run events).2.tracer = e'.tracer := (fixed_run e' events).2
  exact final.spans (tracer.trans recording) (tracer'.trans recording')

theorem run_differs_in_delivery_refused :
    let quiet : Executor := { settings := { raiseOnError := false }, tracer := .silent }
    let loud : Executor := { tracer := .recording }
    let r : Request := { url := .text "http://h/t" }
    let refusal : Value := .map [(.text "message", .text "no table")]
    let events : List Event := [.respond 404 refusal .null, .execute r, .execute r]
    quiet.transport = loud.transport ∧ quiet.records = loud.records ∧ quiet.spans = loud.spans ∧
      (quiet.run events).2.records = (loud.run events).2.records ∧
      ∃ response report, .ok (some response) ∈ (quiet.run events).1 ∧
        response.refusal = some report ∧ .error (.refused report) ∈ (loud.run events).1 := by
  intro quiet loud r refusal events
  have fresh : quiet.transport = loud.transport := rfl
  obtain ⟨_, _, records, _, results⟩ := run_differs_in_delivery fresh rfl rfl events
  have refused : (quiet.run events).1.any isRefused = true := by decide +kernel
  exact ⟨fresh, rfl, rfl, records, exists_raised results refused⟩

end Executor

end RestQuery
