import RestQuery.Fault
import RestQuery.Value.Equality

/-!
# Spans

A tracer opens a span around a piece of work. A recording tracer keeps every span with what was
set on it, a silent one opens none, and one for telemetry hands its spans to someone else.
-/

namespace RestQuery

open Text

structure Span where
  name : String
  kind : SpanKind
  attributes : List (Value × Value)
  exceptions : List Fault

inductive Tracer where
  | recording | silent | telemetry
  deriving DecidableEq

namespace Tracer

/-- The tracer opens real spans. -/
def enabled : Tracer → Bool
  | silent => false
  | _ => true

/-- The tracer made for an executor that is given none. -/
def create (tracing : Bool) : Tracer := if tracing then telemetry else silent

end Tracer

/-- The kind of span that a value names. -/
def SpanKind.coerce : Value → Outcome SpanKind
  | .member (.spanKind k) => .ok k
  | .text s => match SpanKind.ofToken? s with
    | some k => .ok k
    | none => .error (.badValue (quoted s ++ " is not a valid SpanKindEnum"))
  | v => .error (.showing v (.badValue (v.literal ++ " is not a valid SpanKindEnum")))

/-- The entry that an item of a sequence of pairs stands for; `index` is its place. -/
def Value.pairOf (index : Nat) (v : Value) : Outcome (Value × Value) :=
  match v.items? with
  | some [key, value] =>
    if key.isKey then .ok (key, value)
    else .error (.notAKey key)
  | some items => .error (.badValue ("dictionary update sequence element #" ++ toString index ++
      " has length " ++ toString items.length ++ "; 2 is required"))
  | none => .error (.noItems v)

def Value.pairsOf (index : Nat) : List Value → Outcome (List (Value × Value))
  | [] => .ok []
  | v :: vs => do return (← v.pairOf index) :: (← pairsOf (index + 1) vs)

/-- The entries of a map, or of a sequence of pairs read as one. A record with a field called
`keys` passes for a map and is none. -/
def Value.entriesOf (v : Value) : Outcome (List (Value × Value)) :=
  match v with
  | .map es => .ok es
  | v =>
    if v.hasField "keys" then .error (.noItems v)
    else match v.items? with
      | some items => do return Value.mapOf (← Value.pairsOf 0 items)
      | none => .error (.noItems v)

/-- A piece of work inside a span: what it sets on the span, records and raises. -/
structure Visit where
  name : String
  kind : SpanKind
  attributes : Value
  settings : List (Value × Value)
  recorded : Option String
  raised : Option String

namespace Visit

/-- The first key of the settings that is not fit for one: there the visit breaks off. -/
def unfitKey? (v : Visit) : Option Value := Value.firstUnfit? (v.settings.map (·.1))

/-- The span that a recording tracer keeps of a visit. -/
def span (v : Visit) : Outcome Span := do
  let initial ← if v.attributes.truth then v.attributes.entriesOf else pure []
  return {
    name := v.name
    kind := v.kind
    attributes := (v.settings.takeWhile (·.1.isKey)).foldl
      (fun es e => Value.insertEntry e.1 e.2 es) initial
    exceptions := if v.unfitKey?.isSome then [] else (v.recorded.map Fault.failure).toList }

/-- How a visit ends that sets and records nothing. -/
def result (v : Visit) (opened : Bool) : Outcome Bool :=
  match v.raised with
  | some message => .error (.failure message)
  | none => .ok opened

/-- How a visit with a span ends. -/
def spanResult (v : Visit) : Outcome Bool :=
  match v.unfitKey? with
  | some key => .error (.notAKey key)
  | none => v.result true

end Visit

/-- The spans that a tracer has recorded. -/
structure Trace where
  tracer : Tracer
  spans : List Span := []

namespace Trace

/-- A visit under a tracer: whether a span was opened, or how the visit failed. -/
def visit (t : Trace) (v : Visit) : Outcome Bool × Trace :=
  match t.tracer with
  | .recording =>
    match v.span with
    | .ok span => (v.spanResult, { t with spans := t.spans ++ [span] })
    | .error f => (.error f, t)
  | tracer => (v.result tracer.enabled, t)

def clear (t : Trace) : Trace := { t with spans := [] }

end Trace

end RestQuery
