import Mathlib.Data.List.DropRight
import RestQuery.Executor
import RestQuery.Proofs.Outcome

/-!
# Replies in order

The transport answers requests from a queue that changes all the time. A ledger that only grows,
with a mark for how many of its replies have been given, tells the same story of every run:
`run_replays_ledger`.
-/

namespace RestQuery

/-- What the caller gets for a reply. -/
def Reply.outcome (raising : Bool) : Reply → Outcome Response
  | .response raw => do (← Response.decode raw).deliver raising
  | .breakdown b => .error b.fault

/-- The request that a transport gets, if there is one. -/
def Request.sent? (r : Request) : Option Prepared :=
  match r.relation with
  | .ok _ => r.prepare.toOption
  | .error _ => none

namespace Event

/-- What an event sends. -/
def sent? : Event → Option Prepared
  | .execute r => r.sent?
  | .perform start changes =>
    match (Request.build start changes).1 with
    | .ok r => r.sent?
    | .error _ => none
  | _ => none

/-- What an event adds to the queue. -/
def queued? : Event → Option Reply
  | .enqueue reply => some reply
  | .respond status payload headers =>
    (RawResponse.json status payload headers).toOption.map .response
  | _ => none

/-- The requests and the replies stay where they are. -/
def keeps : Event → Bool
  | .clear => false
  | _ => true

end Event

/-! ### The ledger -/

/-- All that was sent and queued since the transport was cleared, and how many replies were
given. -/
structure Ledger where
  sent : List Prepared := []
  queued : List Reply := []
  given : Nat := 0

namespace Ledger

/-- The oldest reply that was not given, or no rows. -/
def next (l : Ledger) : Reply := l.queued.getD l.given (.response .noRows)

/-- A request gets the next reply, which is then given. -/
def send (l : Ledger) (p : Prepared) : Ledger :=
  { l with sent := l.sent ++ [p], given := min (l.given + 1) l.queued.length }

def enqueue (l : Ledger) (reply : Reply) : Ledger := { l with queued := l.queued ++ [reply] }

/-- The ledger after a request, which may fail before it is sent. -/
def carry (l : Ledger) (r : Request) : Ledger :=
  match r.sent? with
  | some p => l.send p
  | none => l

def note (l : Ledger) : Event → Ledger
  | .enqueue reply => l.enqueue reply
  | .respond status payload headers =>
    match RawResponse.json status payload headers with
    | .ok raw => l.enqueue (.response raw)
    | .error _ => l
  | .clear => {}
  | .execute r => l.carry r
  | .perform start changes =>
    match (Request.build start changes).1 with
    | .ok r => l.carry r
    | .error _ => l

/-- What a request comes to. -/
def answer (l : Ledger) (raising : Bool) (r : Request) : Outcome Response := do
  let _ ← r.relation
  let _ ← r.prepare
  l.next.outcome raising

/-- What an event comes to. -/
def result (l : Ledger) (raising : Bool) : Event → Outcome (Option Response)
  | .enqueue _ => .ok none
  | .respond status payload headers => do
    let _ ← RawResponse.json status payload headers
    return none
  | .clear => .ok none
  | .execute r => (l.answer raising r).map some
  | .perform start changes => do
    let r ← (Request.build start changes).1
    (l.answer raising r).map some

def after (l : Ledger) (events : List Event) : Ledger := events.foldl note l

/-- What the events come to one after the other. -/
def results (l : Ledger) (raising : Bool) : List Event → List (Outcome (Option Response))
  | [] => []
  | event :: events => l.result raising event :: (l.note event).results raising events

/-! ### What stands in it -/

/-- The events since the transport was last cleared. -/
def recent (events : List Event) : List Event := events.rtakeWhile (·.keeps)

theorem after_concat (l : Ledger) (events : List Event) (event : Event) :
    l.after (events ++ [event]) = (l.after events).note event := by
  simp [after]

theorem recent_concat {event : Event} (keeps : event.keeps = true) (events : List Event) :
    recent (events ++ [event]) = recent events ++ [event] :=
  List.rtakeWhile_concat_pos _ _ _ keeps

theorem recent_clear (events : List Event) : recent (events ++ [.clear]) = [] :=
  List.rtakeWhile_concat_neg _ _ _ (by decide)

theorem carry_entries (l : Ledger) (r : Request) :
    (l.carry r).sent = l.sent ++ r.sent?.toList ∧ (l.carry r).queued = l.queued := by
  unfold carry
  split
  · next p sends => simp [send, sends]
  · next nothing => simp [nothing]

/-- An event other than clearing adds what it sends and what it queues. -/
theorem note_entries {event : Event} (keeps : event.keeps = true) (l : Ledger) :
    (l.note event).sent = l.sent ++ event.sent?.toList ∧
      (l.note event).queued = l.queued ++ event.queued?.toList := by
  cases event with
  | enqueue reply => simp [note, enqueue, Event.sent?, Event.queued?]
  | clear => cases keeps
  | respond status payload headers =>
    cases written : RawResponse.json status payload headers with
    | error f => simp [note, written, Event.sent?, Event.queued?, Except.toOption]
    | ok raw => simp [note, written, enqueue, Event.sent?, Event.queued?, Except.toOption]
  | execute r => simpa [note, Event.sent?, Event.queued?] using l.carry_entries r
  | perform start changes =>
    cases built : (Request.build start changes).1 with
    | error f => simp [note, built, Event.sent?, Event.queued?]
    | ok r => simpa [note, built, Event.sent?, Event.queued?] using l.carry_entries r

/-- The ledger of a run holds what was sent and queued since the transport was last cleared. -/
theorem entries_after (events : List Event) :
    (after {} events).sent = (recent events).filterMap Event.sent? ∧
      (after {} events).queued = (recent events).filterMap Event.queued? := by
  induction events using List.reverseRecOn with
  | nil => exact ⟨rfl, rfl⟩
  | append_singleton events event ih =>
    rw [after_concat]
    cases keeps : event.keeps with
    | true =>
      obtain ⟨sent, queued⟩ := note_entries keeps (after {} events)
      rw [sent, queued, recent_concat keeps, ih.1, ih.2, List.filterMap_append,
        List.filterMap_append]
      exact ⟨rfl, rfl⟩
    | false =>
      cases event with
      | clear =>
        rw [recent_clear]
        exact ⟨rfl, rfl⟩
      | _ => cases keeps

end Ledger

/-! ### The executor and the ledger -/

/-- The transport has what the ledger says: the requests, and the replies that were not given. -/
structure Ledger.Fits (l : Ledger) (t : Transport) : Prop where
  requests : t.requests = l.sent
  queue : t.queue = l.queued.drop l.given
  bound : l.given ≤ l.queued.length

namespace Ledger.Fits

variable {l : Ledger} {t : Transport}

theorem start : Fits {} {} := ⟨rfl, rfl, Nat.le_refl 0⟩

theorem enqueue (fits : l.Fits t) (reply : Reply) : (l.enqueue reply).Fits (t.enqueue reply) := by
  refine ⟨fits.requests, ?_, ?_⟩
  · simp only [Transport.enqueue, Ledger.enqueue]
    rw [List.drop_append_of_le_length fits.bound, fits.queue]
  · simp only [Ledger.enqueue, List.length_append]
    exact Nat.le_add_right_of_le fits.bound

theorem reply (fits : l.Fits t) (p : Prepared) : (t.send p).1 = l.next := by
  rw [Transport.reply_send, fits.queue, next, List.getD_eq_getElem?_getD, List.headD_eq_head?_getD,
    List.head?_drop]

theorem send (fits : l.Fits t) (p : Prepared) : (l.send p).Fits (t.send p).2 := by
  refine ⟨?_, ?_, Nat.min_le_right _ _⟩
  · rw [Transport.requests_send, fits.requests]
    rfl
  · rw [Transport.queue_send, fits.queue, List.drop_drop]
    simp only [Ledger.send]
    rcases Nat.le_total (l.given + 1) l.queued.length with some_left | none_left
    · rw [Nat.min_eq_left some_left]
    · rw [Nat.min_eq_right none_left, List.drop_of_length_le none_left, List.drop_length]

end Ledger.Fits

namespace Exchange

variable {settings : Settings} {spanned : Bool} {t : Transport} {r : Request} {relation : String}

theorem run_of_error {f : Fault} (failed : r.prepare = .error f) :
    run settings spanned t r relation = ⟨.error f, t, [], []⟩ := by
  rw [run, failed]

/-- An exchange sends the request and gives the reply to the caller. -/
theorem run_of_ok {p : Prepared} (prepared : r.prepare = .ok p) :
    (run settings spanned t r relation).result = (t.send p).1.outcome settings.raiseOnError ∧
      (run settings spanned t r relation).transport = (t.send p).2 := by
  rcases sent : t.send p with ⟨reply, t'⟩
  cases reply with
  | breakdown b => simp [run, prepared, sent, Reply.outcome]
  | response raw =>
    cases decoded : Response.decode raw with
    | error f => simp [run, prepared, sent, Reply.outcome, decoded, bind, Except.bind]
    | ok response => simp [run, prepared, sent, Reply.outcome, decoded, bind, Except.bind]

end Exchange

namespace Executor

variable {e : Executor} {l : Ledger}

theorem execute_of_ok {r : Request} {relation : String} {p : Prepared}
    (named : r.relation = .ok relation) (prepared : r.prepare = .ok p) :
    (e.execute r).1 = (e.transport.send p).1.outcome e.settings.raiseOnError ∧
      (e.execute r).2.transport = (e.transport.send p).2 := by
  rw [execute, named]
  exact Exchange.run_of_ok prepared

/-- What is sent takes the oldest reply off the queue, if there is one. -/
theorem execute_of_sent {r : Request} {p : Prepared} (sends : r.sent? = some p) :
    (e.execute r).1 =
        (e.transport.queue.headD (.response .noRows)).outcome e.settings.raiseOnError ∧
      (e.execute r).2.transport = ⟨e.transport.requests ++ [p], e.transport.queue.drop 1⟩ := by
  unfold Request.sent? at sends
  cases named : r.relation with
  | error f => simp [named] at sends
  | ok relation =>
    rw [named] at sends
    obtain ⟨result, transport⟩ := execute_of_ok (e := e) named (toOption_ok.mp sends)
    rw [result, transport, Transport.reply_send, ← Transport.requests_send, ← Transport.queue_send]
    exact ⟨rfl, rfl⟩

theorem fixed_execute (e : Executor) (r : Request) :
    (e.execute r).2.settings = e.settings ∧ (e.execute r).2.tracer = e.tracer := by
  unfold execute
  split <;> exact ⟨rfl, rfl⟩

theorem fixed_step (e : Executor) (event : Event) :
    (e.step event).2.settings = e.settings ∧ (e.step event).2.tracer = e.tracer := by
  cases event with
  | enqueue reply => exact ⟨rfl, rfl⟩
  | clear => exact ⟨rfl, rfl⟩
  | respond status payload headers =>
    rw [step]
    split <;> exact ⟨rfl, rfl⟩
  | execute r => exact fixed_execute e r
  | perform start changes =>
    simp only [step, buildAndExecute]
    split
    · exact ⟨rfl, rfl⟩
    · exact fixed_execute _ _

/-- Settings and tracer stay as they are. -/
theorem fixed_run (e : Executor) (events : List Event) :
    (e.run events).2.settings = e.settings ∧ (e.run events).2.tracer = e.tracer := by
  induction events generalizing e with
  | nil => exact ⟨rfl, rfl⟩
  | cons event events ih =>
    obtain ⟨settings, tracer⟩ := ih (e.step event).2
    obtain ⟨settings', tracer'⟩ := fixed_step e event
    exact ⟨settings.trans settings', tracer.trans tracer'⟩

/-- Carrying out a request is what the ledger says it is. -/
theorem execute_eq (fits : l.Fits e.transport) (r : Request) :
    (e.execute r).1 = l.answer e.settings.raiseOnError r ∧
      (l.carry r).Fits (e.execute r).2.transport := by
  unfold Ledger.carry Request.sent? Ledger.answer
  cases named : r.relation with
  | error f =>
    rw [execute, named]
    exact ⟨rfl, fits⟩
  | ok relation =>
    cases prepared : r.prepare with
    | error f =>
      rw [execute, named]
      simp only [Exchange.run_of_error prepared]
      exact ⟨rfl, fits⟩
    | ok p =>
      obtain ⟨result, transport⟩ := execute_of_ok (e := e) named prepared
      rw [result, transport, fits.reply p]
      exact ⟨rfl, fits.send p⟩

/-- One event does to the executor what it does to the ledger. -/
theorem step_eq (fits : l.Fits e.transport) (event : Event) :
    (e.step event).1 = l.result e.settings.raiseOnError event ∧
      (l.note event).Fits (e.step event).2.transport := by
  cases event with
  | enqueue reply => exact ⟨rfl, fits.enqueue reply⟩
  | clear => exact ⟨rfl, .start⟩
  | respond status payload headers =>
    rw [step, Ledger.result, Ledger.note]
    cases written : RawResponse.json status payload headers with
    | error f => exact ⟨rfl, fits⟩
    | ok raw => exact ⟨rfl, fits.enqueue _⟩
  | execute r =>
    obtain ⟨result, transport⟩ := execute_eq fits r
    exact ⟨congrArg (Except.map some) result, transport⟩
  | perform start changes =>
    rw [step, Ledger.result, Ledger.note, buildAndExecute]
    rcases Request.build start changes with ⟨built, records⟩
    cases built with
    | error f => exact ⟨rfl, fits⟩
    | ok r =>
      have logged : l.Fits (e.log records).transport := fits
      obtain ⟨result, transport⟩ := execute_eq logged r
      exact ⟨congrArg (Except.map some) result, transport⟩

theorem run_eq (fits : l.Fits e.transport) (events : List Event) :
    (e.run events).1 = l.results e.settings.raiseOnError events ∧
      (l.after events).Fits (e.run events).2.transport := by
  induction events generalizing e l with
  | nil => exact ⟨rfl, fits⟩
  | cons event events ih =>
    obtain ⟨result, noted⟩ := step_eq fits event
    obtain ⟨results, transport⟩ := ih noted
    rw [(fixed_step e event).1] at results
    exact ⟨congrArg₂ List.cons result results, transport⟩

/-! ### Failures that leave the transport alone -/

theorem transport_execute_of_error {r : Request} {f : Fault} (failed : r.prepare = .error f) :
    (e.execute r).2.transport = e.transport := by
  unfold execute
  split
  · rfl
  · simp only [Exchange.run_of_error failed]

theorem transport_perform_of_error {start : Outcome Start} {changes : List (Outcome Change)}
    {f : Fault} (failed : (Request.build start changes).1 = .error f) :
    (e.step (.perform start changes)).2.transport = e.transport := by
  rw [step, buildAndExecute]
  rcases built : Request.build start changes with ⟨result, records⟩
  rw [built] at failed
  cases failed
  rfl

theorem step_respond_of_error {status : Int} {payload headers : Value} {f : Fault}
    (failed : RawResponse.json status payload headers = .error f) :
    e.step (.respond status payload headers) = (.error f, e) := by
  rw [step, failed]

/-- A payload that cannot be written makes no response, whatever the headers are. -/
theorem exists_json_error {payload : Value} {f : Fault} (unwritten : Json.print payload = .error f)
    (status : Int) (headers : Value) : ∃ f', RawResponse.json status payload headers = .error f' := by
  unfold RawResponse.json
  split
  · split
    · rw [unwritten]
      exact ⟨f, rfl⟩
    · exact ⟨_, rfl⟩
  · rw [unwritten]
    exact ⟨f, rfl⟩

/-- In every run from an empty transport, the results are those of the ledger, and the requests and
the replies, given or not, are those since the transport was last cleared. What is sent next gets
the oldest reply that was not given, or no rows. What fails before that changes nothing, and neither
does a JSON response whose payload cannot be written. -/
theorem run_replays_ledger (fresh : e.transport = {}) (events : List Event) :
    let l := Ledger.after {} events
    let last := (e.run events).2
    (e.run events).1 = Ledger.results {} e.settings.raiseOnError events ∧
      last.transport.requests = (Ledger.recent events).filterMap Event.sent? ∧
      l.queued = (Ledger.recent events).filterMap Event.queued? ∧
      l.queued = l.queued.take l.given ++ last.transport.queue ∧
      last.transport.pending + l.given = l.queued.length ∧
      (∀ r p, r.sent? = some p → (last.execute r).1 =
          (last.transport.queue.headD (.response .noRows)).outcome e.settings.raiseOnError ∧
        (last.execute r).2.transport =
          ⟨last.transport.requests ++ [p], last.transport.queue.drop 1⟩) ∧
      (∀ r f, r.prepare = .error f → (last.execute r).2.transport = last.transport) ∧
      (∀ start changes f, (Request.build start changes).1 = .error f →
        (last.step (.perform start changes)).2.transport = last.transport) ∧
      (∀ status payload headers f, Json.print payload = .error f →
        ∃ f', last.step (.respond status payload headers) = (.error f', last)) ∧
      (∀ status payload headers f, RawResponse.json status payload headers = .error f →
        (last.step (.respond status payload headers)).2.transport = last.transport) := by
  intro l last
  have start : Ledger.Fits {} e.transport := fresh ▸ .start
  obtain ⟨results, fits⟩ := run_eq start events
  obtain ⟨sent, queued⟩ := Ledger.entries_after events
  refine ⟨results, fits.requests.trans sent, queued, ?_, ?_, ?_, ?_, ?_, ?_, ?_⟩
  · rw [fits.queue]
    exact (List.take_append_drop _ _).symm
  · rw [Transport.pending, fits.queue, List.length_drop]
    exact Nat.sub_add_cancel fits.bound
  · intro r p sends
    rw [← (fixed_run e events).1]
    exact execute_of_sent sends
  · intro r f failed
    exact transport_execute_of_error failed
  · intro start changes f failed
    exact transport_perform_of_error failed
  · intro status payload headers f unwritten
    obtain ⟨f', failed⟩ := exists_json_error unwritten status headers
    exact ⟨f', step_respond_of_error failed⟩
  · intro status payload headers f failed
    rw [step_respond_of_error failed]

theorem run_replays_ledger_emptied :
    let r : Request := { url := .text "http://h/t" }
    let down : Reply := .breakdown (.transport "down")
    let noRows : Response := ⟨200, .list [], none, RawResponse.noRows.headers, none⟩
    let events : List Event := [.enqueue down, .clear, .enqueue down, .execute r, .execute r]
    let e : Executor := {}
    e.transport = {} ∧ (e.run events).1 =
        [.ok none, .ok none, .ok none, .error (.transport "down" none), .ok (some noRows)] ∧
      (e.run events).2.transport.requests.length = 2 ∧
      (e.run events).2.transport.pending + 1 = 1 := by
  intro r down noRows events e
  obtain ⟨results, requests, _, _, pending, _⟩ := run_replays_ledger (e := e) rfl events
  exact ⟨rfl, results, congrArg List.length requests, pending⟩

end Executor

end RestQuery
