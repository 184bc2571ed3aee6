import RestQuery.Condition.Rendering
import RestQuery.Request.Headers
import RestQuery.Request.Query

/-!
# Requests

The description of one request, built up step by step and sent at the end. Updates take whatever
value the caller passes; a value of `null` for a query or a header changes nothing. Keys, names and
values enter as Unicode texts: a text that holds half of a surrogate pair, which no URL and no header
can carry, is outside the builder.
-/

namespace RestQuery

open Text

structure Request where
  url : Value
  method : Method := .get
  query : Query := .empty
  headers : Headers := .empty
  body : Value := .null
  schema : Value := .null

/-- The method that a value names, in any letter case. -/
def Method.coerce : Value → Outcome Method
  | .member (.method m) => .ok m
  | v => do
    let name := upper (← v.display)
    match Method.ofToken? name with
    | some m => return m
    | none => throw (.badValue (quoted name ++ " is not a valid Method"))

/-- The headers that a map stands for. -/
def Headers.ofValue : Value → Outcome Headers
  | .map es => do return .ofEntries (← es.mapM fun e => do return (← e.1.display, ← e.2.display))
  | v => .error (.lacking "items" v)

namespace Query

/-- The key and the text that a value of two items stands for. -/
def entryOf (v : Value) : Outcome (String × String) :=
  match v.items? with
  | some [key, value] => do return (← key.display, ← value.display)
  | some items =>
    if items.length < 2 then
      .error (.badValue ("not enough values to unpack (expected 2, got " ++
        toString items.length ++ ")"))
    else .error (.badValue "too many values to unpack (expected 2)")
  | none => .error (.noItems v)

/-- The query that the items of a value stand for. -/
def ofValue (v : Value) : Outcome Query :=
  match v.items? with
  | some items => do return ⟨← items.mapM entryOf⟩
  | none => .error (.noItems v)

end Query

namespace Request

/-- A request from its parts. -/
def create (url method query headers body schema : Value) : Outcome Request := do
  let headers ← Headers.ofValue headers
  let method ← Method.coerce method
  let query ← Query.ofValue query
  return { url, method, query, headers, body, schema }

/-! ### Reading -/

def getQuery (r : Request) : Value → Value
  | .text key => ((r.query.get? key).map Value.text).getD .null
  | _ => .null

/-- The name of a header given as a value. Bytes name the header of their literal. -/
def headerName : Value → Outcome String
  | .text s => .ok s
  | .bytes bs =>
    .ok (quotedBytes (bs.map fun b => if 65 ≤ b ∧ b ≤ 90 then b + 32 else b))
  | v => .error (.lacking "lower" v)

def getHeader (r : Request) : Value → Outcome Value
  | .text name => .ok (((r.headers.get? name).map Value.text).getD .null)
  | .bytes _ => .ok .null
  | v => .error (.lacking "lower" v)

/-- The query as a map. -/
def queryParams (r : Request) : List (String × String) := r.query.params

/-- The query part of the URL. -/
def queryString (r : Request) : String := r.query.encode

/-- The URL with the query, unless that is empty. -/
def target (r : Request) : Outcome Value :=
  if r.queryString = "" then .ok r.url
  else do return .text ((← r.url.display) ++ "?" ++ r.queryString)

/-- The method and the URL in one line. -/
def line (r : Request) : Outcome String := do
  let query := if r.queryString = "" then "" else "?" ++ r.queryString
  return r.method.token ++ " " ++ (← r.url.display) ++ query

/-- The last segment of a URL, slashes at its end aside. -/
def relationOf : Value → Outcome String
  | .text url => .ok (afterLast '/' (dropTrailing '/' url))
  | .bytes _ => .error (.wrongKind "a URL is a text")
  | v => .error (.lacking "rstrip" v)

/-- The relation that a request is about. -/
def relation (r : Request) : Outcome String := relationOf r.url

/-! ### Updates -/

def withMethod (r : Request) (method : Value) : Outcome Request := do
  return { r with method := ← Method.coerce method }

/-- A text put into the query. Only a text finds the entry of an equal key; any other key makes
a new entry under its own text. -/
def putQuery (r : Request) (put : Query → String → String → Query) (key value : Value) :
    Outcome Request :=
  match value with
  | .null => .ok r
  | value => do
    let text ← value.display
    match key with
    | .text key => return { r with query := put r.query key text }
    | key => return { r with query := r.query.append (← key.display) text }

/-- A text added to those at a key of the query. -/
def withQuery (r : Request) (key value : Value) : Outcome Request := r.putQuery .merge key value

/-- A text put at a key of the query in place of those there. -/
def replaceQuery (r : Request) (key value : Value) : Outcome Request :=
  r.putQuery .replace key value

def withoutQuery (r : Request) : Value → Request
  | .text key => { r with query := r.query.erase key }
  | _ => r

def putHeader (r : Request) (put : Headers → String → String → Headers) (name value : Value) :
    Outcome Request :=
  match value with
  | .null => .ok r
  | value => do
    let name ← headerName name
    return { r with headers := put r.headers name (← value.display) }

def withHeader (r : Request) (name value : Value) : Outcome Request := r.putHeader .set name value

def replaceHeader (r : Request) (name value : Value) : Outcome Request :=
  r.putHeader .replace name value

/-- The headers of a map set one after the other. -/
def withHeaders (r : Request) : Value → Outcome Request
  | .map es => es.foldlM (fun r e => r.withHeader e.1 e.2) r
  | v => .error (.lacking "items" v)

def withoutHeader (r : Request) : Value → Outcome Request
  | .text name => .ok { r with headers := r.headers.erase name }
  | .bytes _ => .ok r
  | v => .error (.lacking "lower" v)

def withBody (r : Request) (body : Value) : Request := { r with body }

def withSchema (r : Request) (schema : Value) : Request := { r with schema }

/-! ### Comparison -/

/-- The same method, query and headers: the query in order, the headers in any order. -/
def sameHead (a b : Request) : Bool :=
  a.method == b.method && a.query == b.query && a.headers.same b.headers

/-- The same request. -/
def same (a b : Request) : Bool :=
  a.url.same b.url && a.sameHead b && a.schema.same b.schema && a.body.same b.body

/-- What a request is told apart by in a table: everything but the body. -/
structure Fingerprint where
  url : Value
  method : Method
  query : List (String × String)
  headers : List (String × String)
  schema : Value

def fingerprint (r : Request) : Fingerprint :=
  ⟨r.url, r.method, r.query.entries, r.headers.sorted, r.schema⟩

def Fingerprint.same (a b : Fingerprint) : Bool :=
  a.url.same b.url && a.method == b.method && a.query == b.query && a.headers == b.headers &&
    a.schema.same b.schema

/-- A request with a fingerprint: its URL and its schema can be keys. -/
def checkKeys (r : Request) : Outcome Unit :=
  if !r.url.isKey then .error (.notAKey r.url)
  else if !r.schema.isKey then .error (.notAKey r.schema)
  else .ok ()

end Request

/-- The updates of a request. -/
inductive Update where
  | method (m : Value)
  | mergeQuery (key value : Value)
  | replaceQuery (key value : Value)
  | eraseQuery (key : Value)
  | setHeader (name value : Value)
  | setHeaders (headers : Value)
  | replaceHeader (name value : Value)
  | eraseHeader (name : Value)
  | body (v : Value)
  | schema (v : Value)

def Update.apply (r : Request) : Update → Outcome Request
  | .method m => r.withMethod m
  | .mergeQuery key value => r.withQuery key value
  | .replaceQuery key value => r.replaceQuery key value
  | .eraseQuery key => .ok (r.withoutQuery key)
  | .setHeader name value => r.withHeader name value
  | .setHeaders headers => r.withHeaders headers
  | .replaceHeader name value => r.replaceHeader name value
  | .eraseHeader name => r.withoutHeader name
  | .body v => .ok (r.withBody v)
  | .schema v => .ok (r.withSchema v)

end RestQuery
