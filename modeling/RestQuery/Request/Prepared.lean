import RestQuery.Request.Basic

/-!
# Requests ready to be sent

Preparing a request writes its query into the URL, its body as JSON and its schema into the
header that goes with its method.
-/

namespace RestQuery

open Text

structure Prepared where
  method : Method
  url : Value
  headers : Headers
  /-- The JSON text of the body, which is ASCII. -/
  body : Option String

/-- The header that carries the schema of a request. -/
def Method.profileHeader (m : Method) : String :=
  if m.isRead then "accept-profile" else "content-profile"

/-- The body of a request as JSON. -/
def encodeBody (v : Value) : Outcome String :=
  match Json.print v with
  | .ok s => .ok s
  | .error f => .error (.unencodable v.kindName f.message)

/-- The profile header for a method that is named by a value, among headers given as a map; a
schema that is empty changes nothing. -/
def applyProfile (method schema : Value) (headers : List (Value × Value)) :
    Outcome (List (Value × Value)) :=
  if schema.truth then do
    let m ← Method.coerce method
    return Value.insertEntry (.text m.profileHeader) schema headers
  else .ok headers

namespace Request

/-- The headers with the one for the schema. -/
def profiled (r : Request) : Outcome Headers :=
  if r.schema.truth then do
    return r.headers.replace r.method.profileHeader (← r.schema.display)
  else .ok r.headers

/-- The body as it is sent. -/
def encodedBody (r : Request) : Outcome (Option String) :=
  match r.body with
  | .null => .ok none
  | v => do return some (← encodeBody v)

/-- What is sent for a request. -/
def prepare (r : Request) : Outcome Prepared := do
  let url ← r.target
  let body ← r.encodedBody
  return { method := r.method, url, headers := ← r.profiled, body }

end Request

end RestQuery
