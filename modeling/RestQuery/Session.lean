import RestQuery.Client

/-!
# Sessions

The building of one request step by step, with drafts kept under names. Drafts that share a body
have the same body, whether or not it is equal to itself.
-/

namespace RestQuery

/-- A request with the turns at which its body and its schema were last set. -/
structure Draft where
  request : Request
  bodyTurn : Nat
  schemaTurn : Nat

namespace Draft

/-- The draft after a change made at a turn. -/
def change (d : Draft) (turn : Nat) (c : Change) : Outcome Draft := do
  return {
    request := ← c.apply d.request
    bodyTurn := if c.setsBody then turn else d.bodyTurn
    schemaTurn := if c.setsSchema then turn else d.schemaTurn }

def sameBody (a b : Draft) : Bool := a.bodyTurn == b.bodyTurn || a.request.body.same b.request.body

def sameSchema (a b : Draft) : Bool :=
  a.schemaTurn == b.schemaTurn || a.request.schema.same b.request.schema

/-- The same draft; all drafts of a session have one URL. -/
def same (a b : Draft) : Bool :=
  a.request.sameHead b.request && a.sameSchema b && a.sameBody b

/-- The schemas have one digest, being the same value or not. -/
def sameSchemaDigest (a b : Draft) : Bool :=
  a.schemaTurn == b.schemaTurn || a.request.schema.digest.same b.request.schema.digest

/-- The same fingerprint: bodies are left out, and headers are taken in order of their names. -/
def sameFingerprint (a b : Draft) : Bool :=
  a.request.method == b.request.method && a.request.query == b.request.query &&
    a.request.headers.sorted == b.request.headers.sorted && a.sameSchemaDigest b

end Draft

/-- What is done in a session. -/
inductive Action where
  | change (c : Change)
  | read (what : Reading)
  | save (name : String)
  | load (name : String)
  | compare (name : String)

/-- What a session answers. -/
inductive Answer where
  | request (r : Request)
  | value (v : Value)
  | saved (name : String)
  | comparison (equal sameFingerprint : Bool)

structure Session where
  current : Draft
  saved : List (String × Draft) := []
  turn : Nat := 1

namespace Session

/-- A session that starts with a request. -/
def ofRequest (r : Request) : Session := { current := ⟨r, 0, 0⟩ }

/-- The drafts with one kept under a name, in place of an earlier one. -/
def keep (drafts : List (String × Draft)) (name : String) (d : Draft) : List (String × Draft) :=
  (name, d) :: drafts.filter (·.1 != name)

def draft (s : Session) (name : String) : Outcome Draft :=
  match s.saved.lookup name with
  | some d => .ok d
  | none => .error .unsupported

/-- Two drafts compared, if both have a fingerprint. -/
def compare (a b : Draft) : Outcome Answer := do
  a.request.checkKeys
  b.request.checkKeys
  return .comparison (a.same b) (a.sameFingerprint b)

/-- What an action comes to, and the session after it if it succeeds. -/
def perform (s : Session) : Action → Outcome (Answer × Session)
  | .change c => do
    let d ← s.current.change s.turn c
    return (.request d.request, { s with current := d })
  | .read what => do return (.value (← what.read s.current.request), s)
  | .save name => .ok (.saved name, { s with saved := keep s.saved name s.current })
  | .load name => do
    let d ← s.draft name
    return (.request d.request, { s with current := d })
  | .compare name => do return (← compare s.current (← s.draft name), s)

/-- One turn: an action that fails leaves the session as it was. -/
def step (s : Session) (action : Outcome Action) : Outcome Answer × Session :=
  let next := { s with turn := s.turn + 1 }
  match action.bind next.perform with
  | .ok (answer, after) => (.ok answer, after)
  | .error f => (.error f, next)

/-- Turns one after the other, with the answer to each. -/
def run (s : Session) : List (Outcome Action) → List (Outcome Answer) × Session
  | [] => ([], s)
  | action :: rest =>
    let (answer, s) := s.step action
    let (answers, s) := run s rest
    (answer :: answers, s)

end Session

end RestQuery
