import RestQuery.Client
import RestQuery.Request.Prepared
import RestQuery.Response.Basic
import RestQuery.Trace

/-!
# Carrying out requests

An executor prepares a request, hands it to a transport, decodes the answer and tells log and
tracer about it. The transport here keeps the requests it gets and answers them from a queue.
-/

namespace RestQuery

open Text

/-! ### The transport -/

/-- The ways in which an exchange breaks down. -/
inductive Breakdown where
  /-- The transport gave up. -/
  | transport (message : String)
  /-- The operating system reported an error. -/
  | link (cause : LinkError) (message : String)
  /-- Something else went wrong in the transport. -/
  | foreign (fault : Fault)

namespace Breakdown

/-- The fault that the caller sees. -/
def fault : Breakdown → Fault
  | transport message => .transport message none
  | link cause message => .transport message (some cause)
  | foreign fault => fault

/-- The message of a breakdown that counts as a failure of the transport. -/
def message? : Breakdown → Option String
  | transport message | link _ message => some message
  | foreign _ => none

end Breakdown

/-- What a request is answered with. -/
inductive Reply where
  | response (raw : RawResponse)
  | breakdown (b : Breakdown)

/-- The requests received, and the replies still to be given, both in order. -/
structure Transport where
  requests : List Prepared := []
  queue : List Reply := []

namespace Transport

def enqueue (t : Transport) (reply : Reply) : Transport := { t with queue := t.queue ++ [reply] }

/-- The number of replies still to be given. -/
def pending (t : Transport) : Nat := t.queue.length

def last? (t : Transport) : Option Prepared := t.requests.getLast?

/-- A request answered with the oldest reply, or with no rows if there is none. -/
def send (t : Transport) (p : Prepared) : Reply × Transport :=
  match t.queue with
  | [] => (.response .noRows, { t with requests := t.requests ++ [p] })
  | reply :: rest => (reply, ⟨t.requests ++ [p], rest⟩)

@[simp] theorem requests_send (t : Transport) (p : Prepared) :
    (t.send p).2.requests = t.requests ++ [p] := by
  unfold send
  split <;> rfl

@[simp] theorem queue_send (t : Transport) (p : Prepared) : (t.send p).2.queue = t.queue.drop 1 := by
  unfold send
  split <;> simp_all

/-- The oldest reply is the one given. -/
theorem reply_send (t : Transport) (p : Prepared) :
    (t.send p).1 = t.queue.headD (.response .noRows) := by
  unfold send
  split <;> simp_all

@[simp] theorem requests_enqueue (t : Transport) (reply : Reply) :
    (t.enqueue reply).requests = t.requests := rfl

@[simp] theorem pending_enqueue (t : Transport) (reply : Reply) :
    (t.enqueue reply).pending = t.pending + 1 := by
  simp [pending, enqueue]

end Transport

/-! ### The executor -/

structure Settings where
  raiseOnError : Bool := true
  tracing : Bool := true
  deriving DecidableEq

namespace Settings

def signature : Signature :=
  ⟨[.optional "raise_on_error" (.bool true), .optional "enable_tracing" (.bool true)], []⟩

def flag (name : String) : Value → Outcome Bool
  | .bool b => .ok b
  | v => .error (.showing v (.badValue (name ++ " must be a bool, got " ++ v.literal)))

/-- The settings that some arguments stand for. -/
def ofArguments (arguments : List (String × Value)) : Outcome Settings := do
  match ← signature.bind ⟨[], arguments⟩ with
  | [raising, tracing] =>
    return { raiseOnError := ← flag "raise_on_error" raising,
             tracing := ← flag "enable_tracing" tracing }
  | _ => throw (Signature.mismatch "wrong number of arguments")

end Settings

/-- An executor with its transport, and all that it has recorded and logged. -/
structure Executor where
  settings : Settings := {}
  tracer : Tracer := .telemetry
  transport : Transport := {}
  records : List Record := []
  spans : List Span := []

/-- What came of one request. -/
structure Exchange where
  result : Outcome Response
  transport : Transport
  records : List Record
  /-- The attributes that its span gained. -/
  gained : List (Value × Value)

namespace Exchange

/-- The request as the log names it. -/
def subject (r : Request) (relation : String) : String := r.method.token ++ " " ++ relation

def dispatched (subject : String) : Record := ⟨.debug, "Dispatching " ++ subject⟩

def received (status : Int) (subject : String) : List Record :=
  ⟨.debug, "Received " ++ toString status ++ " for " ++ subject⟩ ::
    if isErrorStatus status then
      [⟨.warning, "PostgREST returned " ++ toString status ++ " for " ++ subject⟩]
    else []

def broken (b : Breakdown) (subject : String) : List Record :=
  (b.message?.map fun m => ⟨.error, "Transport failed for " ++ subject ++ ": " ++ m⟩).toList

def statusAttribute (status : Int) : Value × Value :=
  (.text "http.response.status_code", .int status)

/-- The code of a refusal. -/
def codeAttribute (r : Response) : List (Value × Value) :=
  match r.refusal with
  | some report =>
    if report.body.code.truth then [(.text "postgrest.error.code", report.body.code)] else []
  | none => []

/-- What comes of a request about a relation. A span is told of the response if there is one. -/
def run (settings : Settings) (spanned : Bool) (t : Transport) (r : Request) (relation : String) :
    Exchange :=
  match r.prepare with
  | .error f => ⟨.error f, t, [], []⟩
  | .ok p =>
    let subject := subject r relation
    match t.send p with
    | (.breakdown b, t) => ⟨.error b.fault, t, dispatched subject :: broken b subject, []⟩
    | (.response raw, t) =>
      let records := dispatched subject :: received raw.status subject
      let told := if spanned then [statusAttribute raw.status] else []
      match Response.decode raw with
      | .error f => ⟨.error f, t, records, told⟩
      | .ok response =>
        let told := if spanned then told ++ codeAttribute response else told
        ⟨response.deliver settings.raiseOnError, t, records, told⟩

end Exchange

namespace Executor

def spanName : String := "postgrest.request"

/-- The attributes that the span of a request has from the start. -/
def attributes (r : Request) (relation : String) : List (Value × Value) :=
  [(.text "db.system", .text "postgresql"),
    (.text "http.request.method", .text r.method.token),
    (.text "postgrest.relation", .text relation)] ++
    if r.schema.truth then [(.text "postgrest.schema", r.schema)] else []

/-- The span of a request. -/
def span (r : Request) (relation : String) (gained : List (Value × Value)) : Span :=
  ⟨spanName, .client, attributes r relation ++ gained, []⟩

/-- A request carried out. -/
def execute (e : Executor) (r : Request) : Outcome Response × Executor :=
  match r.relation with
  | .error f => (.error f, e)
  | .ok relation =>
    let x := Exchange.run e.settings e.tracer.enabled e.transport r relation
    let spans := if e.tracer = .recording then [span r relation x.gained] else []
    (x.result, { e with
      transport := x.transport
      records := e.records ++ x.records
      spans := e.spans ++ spans })

/-- Records added to the log. -/
def log (e : Executor) (records : List Record) : Executor :=
  { e with records := e.records ++ records }

/-- A request built and carried out. -/
def buildAndExecute (e : Executor) (start : Outcome Start) (changes : List (Outcome Change)) :
    Outcome Response × Executor :=
  match Request.build start changes with
  | (.error f, records) => (.error f, e.log records)
  | (.ok r, records) => (e.log records).execute r

end Executor

/-- What can happen to an executor and its transport. -/
inductive Event where
  | enqueue (reply : Reply)
  /-- A JSON response is queued, if its payload can be written. -/
  | respond (status : Int) (payload headers : Value)
  | clear
  | execute (r : Request)
  /-- A request is built and carried out. -/
  | perform (start : Outcome Start) (changes : List (Outcome Change))

namespace Executor

def enqueue (e : Executor) (reply : Reply) : Executor :=
  { e with transport := e.transport.enqueue reply }

/-- The requests and the replies forgotten. -/
def clear (e : Executor) : Executor := { e with transport := {} }

/-- What an event comes to, with a response if it carries out a request, and what it does. -/
def step (e : Executor) : Event → Outcome (Option Response) × Executor
  | .enqueue reply => (.ok none, e.enqueue reply)
  | .respond status payload headers =>
    match RawResponse.json status payload headers with
    | .ok raw => (.ok none, e.enqueue (.response raw))
    | .error f => (.error f, e)
  | .clear => (.ok none, e.clear)
  | .execute r => ((e.execute r).1.map some, (e.execute r).2)
  | .perform start changes =>
    let (result, e) := e.buildAndExecute start changes
    (result.map some, e)

/-- Events one after the other, with the result of each. -/
def run (e : Executor) : List Event → List (Outcome (Option Response)) × Executor
  | [] => ([], e)
  | event :: events =>
    let (result, e) := e.step event
    let (results, e) := run e events
    (result :: results, e)

end Executor

end RestQuery
