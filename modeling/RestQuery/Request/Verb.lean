import RestQuery.Request.Shape

/-!
# The five verbs

What a request does: select, insert, upsert, update or delete. A verb fixes the method, adds its
preferences and, where rows are written, sets the body.
-/

namespace RestQuery

open Text

/-- A choice among words that was not one of them. -/
def notAChoice (operation argument : String) (choices : List String) (v : Value) : Fault :=
  .argument operation argument ("one of " ++ joinWith ", " (choices.map quoted)) v

/-- The way of counting that a value names. -/
def Count.coerce (operation : String) : Value → Outcome Count
  | .member (.count c) => .ok c
  | .text "exact" => .ok .exact
  | .text "planned" => .ok .planned
  | .text "estimated" => .ok .estimated
  | v => .error (notAChoice operation "count" ["exact", "planned", "estimated"] v)

/-- The representation that a value names. -/
def Returning.coerce (operation : String) : Value → Outcome Returning
  | .member (.returning r) => .ok r
  | .text "representation" => .ok .representation
  | .text "minimal" => .ok .minimal
  | .text "headers-only" => .ok .headersOnly
  | v => .error (notAChoice operation "returning" ["representation", "minimal", "headers-only"] v)

def Count.preference (c : Count) : String := "count=" ++ c.token

def Returning.preference (r : Returning) : String := "return=" ++ r.token

namespace Request

/-- The columns to read: a text as it is, or names with commas between them. -/
def columnList (columns : Value) : Outcome String :=
  match columns with
  | .text s => .ok s
  | v =>
    match v.sequenceItems?.bind fun xs => xs.mapM Value.text? with
    | some names => .ok (commaJoin names)
    | none => .error (.argument "select" "columns" "a string or a list of strings" v)

/-- Rows to write: one, or a list of them. -/
def payload (operation : String) (data : Value) : Outcome Value :=
  let rows := match data.listItems? with
    | some xs => xs.all Value.isRow
    | none => data.isRow
  if rows then .ok data
  else .error (.argument operation "data"
    "a mapping, a pydantic model, or a list of them" data)

/-- The columns whose conflicts are resolved, if there are any. -/
def conflictTarget (columns : Value) : Outcome (Option String) :=
  if columns.truth then do return some (← columns.display) else .ok none

/-- Reading: without rows only their headers are asked for. -/
def select (r : Request) (columns count returning : Value) : Outcome Request := do
  let count ← Count.coerce "select" count
  let columns ← columnList columns
  let r := (r.setQuery "select" columns).prefer count.preference
  return { r with method := if returning.truth then .get else .head }

/-- Rows posted with some preferences, resolving conflicts on the target columns. -/
def post (r : Request) (operation : String) (data : Value) (preferences : List String)
    (target : Option String) : Outcome Request := do
  let r := ({ r with method := .post } : Request).prefer (commaJoin preferences)
  let r := match target with
    | some columns => r.setQuery "on_conflict" columns
    | none => r
  return { r with body := ← payload operation data }

def mergeDuplicates : String := "resolution=merge-duplicates"

def conflictPreference (target : Option String) : List String :=
  (target.map fun columns => "on_conflict=" ++ columns).toList

/-- New rows; with a conflict target, those that exist already are merged. -/
def insert (r : Request) (data onConflict returning count : Value) : Outcome Request := do
  let returning ← Returning.coerce "insert" returning
  let count ← Count.coerce "insert" count
  let target ← conflictTarget onConflict
  let merging := if target.isSome then [mergeDuplicates] else []
  r.post "insert" data
    ([returning.preference, count.preference] ++ conflictPreference target ++ merging) target

/-- New rows merged with those that exist already. -/
def upsert (r : Request) (data onConflict returning count : Value) : Outcome Request := do
  let returning ← Returning.coerce "upsert" returning
  let count ← Count.coerce "upsert" count
  let target ← conflictTarget onConflict
  r.post "upsert" data
    ([mergeDuplicates, returning.preference, count.preference] ++ conflictPreference target) target

/-- New values for the rows of the request. -/
def update (r : Request) (data returning count : Value) : Outcome Request := do
  let returning ← Returning.coerce "update" returning
  let count ← Count.coerce "update" count
  let r := ({ r with method := .patch } : Request).prefer
    (commaJoin [returning.preference, count.preference])
  return { r with body := ← payload "update" data }

/-- The rows of the request deleted. -/
def delete (r : Request) (returning count : Value) : Outcome Request := do
  let returning ← Returning.coerce "delete" returning
  let count ← Count.coerce "delete" count
  return ({ r with method := .delete } : Request).prefer
    (commaJoin [returning.preference, count.preference])

end Request

/-! ### Aggregates -/

/-- The functions over the values of a column. -/
inductive Aggregate where
  | sum | avg | min | max | count
  deriving DecidableEq

namespace Aggregate

def name : Aggregate → String
  | sum => "sum" | avg => "avg" | min => "min" | max => "max" | count => "count"

/-- The column expression of an aggregate, under another name unless that is empty. -/
def expression (f : Aggregate) (column label : Value) : Outcome String := do
  let column ← Condition.columnName f.name column
  let call := column ++ "." ++ f.name ++ "()"
  if label.truth then return (← label.display) ++ ":" ++ call else return call

end Aggregate

end RestQuery
