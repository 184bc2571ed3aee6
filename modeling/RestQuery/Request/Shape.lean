import RestQuery.Request.Filter
import RestQuery.Text.Blank

/-!
# The shape of a result

Order, window, representation and media type of the rows that come back. Terms of the order
accumulate, limits and offsets overwrite, and media types replace each other. Schemas and projected
columns are Unicode texts.
-/

namespace RestQuery

open Text

/-- The media type that a value names, in any letter case; an unknown name means any type. -/
def MediaType.coerce : Value → Outcome MediaType
  | .member (.mediaType m) => .ok m
  | v => do return .ofName (upper (← v.display))

namespace Request

def acceptName : String := "accept"

/-- Another schema of the database. -/
def chooseSchema (r : Request) : Value → Outcome Request
  | .text s =>
    if s = "" then .error (.argument "schema" "name" "a non-empty string" (.text s))
    else .ok { r with schema := .text s }
  | v => .error (.argument "schema" "name" "a non-empty string" v)

/-- The media types that the sender accepts, written out. -/
def setAccept (r : Request) (text : String) : Request :=
  { r with headers := r.headers.replace acceptName text }

def accept (r : Request) (m : MediaType) : Request := r.setAccept m.token

def acceptNamed (r : Request) (name : Value) : Outcome Request := do
  return r.accept (← MediaType.coerce name)

/-- A term of an order: a column, a direction and the place of its nulls. -/
def orderTerm (column : String) (ascending nullsFirst : Bool) : String :=
  column ++ "." ++ (if ascending then "asc" else "desc") ++ "." ++
    (if nullsFirst then "nullsfirst" else "nullslast")

/-- One more term at the end of the order. -/
def order (r : Request) (column ascending nullsFirst table : Value) : Outcome Request := do
  let column ← Condition.columnName "order" column
  let key ← keyWithin "order" table
  return { r with query := r.query.merge key (orderTerm column ascending.truth nullsFirst.truth) }

def limit (r : Request) (count table : Value) : Outcome Request :=
  match count with
  | .int n => do return r.setQuery (← keyWithin "limit" table) (← Value.digitsOf n)
  | v => .error (.argument "limit" "count" "an int" v)

/-- The offset and the limit of the rows between two bounds, both included. -/
def window (first last : Value) : Outcome (Value × Value) :=
  match first, last with
  | .int a, .int b => .ok (.int a, .int (b - a + 1))
  | .float a, .float b => .ok (.float a, .float (b - a + 1))
  | a, b => .error (.argument "range" "from_/to" "two ints or two floats" (.tuple [a, b]))

/-- The text of a bound. -/
def boundText : Value → Outcome String
  | .int n => Value.digitsOf n
  | v => v.display

/-- The rows between two bounds, both included. -/
def range (r : Request) (first last table : Value) : Outcome Request := do
  let (offset, limit) ← window first last
  let offsetKey ← keyWithin "offset" table
  let limitKey ← keyWithin "limit" table
  return (r.setQuery offsetKey (← boundText offset)).setQuery limitKey (← boundText limit)

/-- Exactly one row. -/
def single (r : Request) : Request := r.accept .object

/-- At most one row. A query counts its rows afterwards, anything else has the server do it. -/
def maybeSingle (r : Request) : Request := r.accept (if r.method = .get then .json else .object)

/-- The details that an execution plan can have, each present or not. -/
structure PlanDetails where
  analyze : Bool
  verbose : Bool
  settings : Bool
  buffers : Bool
  wal : Bool

/-- The names of the details that are present. -/
def PlanDetails.names (d : PlanDetails) : List String :=
  [("analyze", d.analyze), ("verbose", d.verbose), ("settings", d.settings),
    ("buffers", d.buffers), ("wal", d.wal)].filterMap fun o => if o.2 then some o.1 else none

/-- The format of an execution plan; whatever is not a known format means plain text. -/
def planFormat : Value → Outcome String
  | .text s => .ok (if s = "json" then "json" else "text")
  | .set _ => .ok "text"
  | v =>
    if v.isKey then .ok "text"
    else .error (.notAKey v)

/-- The execution plan in place of the rows, for the media type accepted so far. -/
def explain (r : Request) (details : PlanDetails) (format : Value) : Outcome Request := do
  let format ← planFormat format
  let target := (r.headers.get? acceptName).getD ""
  return r.setAccept ("application/vnd.pgrst.plan+" ++ format ++ ";for=" ++ target ++
    ";options:" ++ joinWith "|" details.names)

/-- A preference added to those of the request. -/
def prefer (r : Request) (text : String) : Request :=
  { r with headers := r.headers.set Headers.preferName text }

/-- The request undone after it has been carried out. -/
def rollback (r : Request) : Request := r.prefer "tx=rollback"

/-- A column of a projection: trimmed, unless it is quoted. -/
def projected : Value → Outcome String
  | .text s => .ok (if contains '"' s then s else trim s)
  | v => .error (.argument "returning" "columns" "a list of strings" v)

/-- The columns to come back; none means all. -/
def projection (columns : Value) : Outcome String := do
  let text ← match columns with
    | .null => pure ""
    | .text s => pure (trim s)
    | v => match v.sequenceItems? with
      | some xs => do pure (commaJoin (← xs.mapM projected))
      | none => throw (.argument "returning" "columns" "a list of strings" v)
  return if text = "" then "*" else text

/-- The rows that were changed, reduced to some columns. -/
def returnRows (r : Request) (columns : Value) : Outcome Request := do
  let text ← projection columns
  return (r.setQuery "select" text).prefer "return=representation"

end Request

end RestQuery
