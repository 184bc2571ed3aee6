import RestQuery.Request.Step

/-!
# Calls by name

A step or an update written as the name of an operation with arguments by position and by name.
Binding gives each parameter its argument or its default and refuses arguments that are missing,
doubled or unknown.
-/

namespace RestQuery

/-- A parameter and the value it has when no argument is given. -/
structure Parameter where
  name : String
  default : Option Value

namespace Parameter

def required (name : String) : Parameter := ⟨name, none⟩

def optional (name : String) (default : Value) : Parameter := ⟨name, some default⟩

end Parameter

/-- What an operation takes: the first parameters by position or by name, the others by name. -/
structure Signature where
  positional : List Parameter
  named : List Parameter

/-- The arguments of a call. -/
structure Arguments where
  positional : List Value
  named : List (String × Value)

namespace Signature

def mismatch (message : String) : Fault := .wrongKind message

def parameters (s : Signature) : List Parameter := s.positional ++ s.named

/-- Arguments by position with the parameters that they fall to. -/
def place : List Parameter → List Value → Outcome (List (String × Value))
  | _, [] => .ok []
  | [], _ :: _ => .error (mismatch "too many arguments")
  | p :: ps, v :: vs => do return (p.name, v) :: (← place ps vs)

/-- The value of a parameter among the arguments. -/
def valueOf (given : List (String × Value)) (p : Parameter) : Outcome Value :=
  match given.lookup p.name, p.default with
  | some v, _ => .ok v
  | none, some v => .ok v
  | none, none => .error (mismatch ("missing argument " ++ p.name))

/-- The values of the parameters, in their order. -/
def bind (s : Signature) (a : Arguments) : Outcome (List Value) := do
  let placed ← place s.positional a.positional
  let known := s.parameters.map (·.name)
  if !(a.named.all fun e => known.contains e.1 && !(placed.map (·.1)).contains e.1) then
    throw (mismatch "unexpected argument")
  s.parameters.mapM (valueOf (placed ++ a.named))

end Signature

/-- A named operation: what it takes and what it makes of it. -/
structure Operation (α : Type) where
  name : String
  signature : Signature
  build : List Value → Option α

namespace Operation

def ofNone {α : Type} (a : α) : List Value → Option α
  | [] => some a
  | _ => none

def ofOne {α : Type} (f : Value → α) : List Value → Option α
  | [a] => some (f a)
  | _ => none

def ofTwo {α : Type} (f : Value → Value → α) : List Value → Option α
  | [a, b] => some (f a b)
  | _ => none

def ofThree {α : Type} (f : Value → Value → Value → α) : List Value → Option α
  | [a, b, c] => some (f a b c)
  | _ => none

def ofFour {α : Type} (f : Value → Value → Value → Value → α) : List Value → Option α
  | [a, b, c, d] => some (f a b c d)
  | _ => none

/-- What a call of one of some operations stands for. -/
def resolve {α : Type} (operations : List (Operation α)) (name : String) (a : Arguments) :
    Outcome α :=
  match operations.find? (·.name == name) with
  | none => .error .unsupported
  | some o => do
    match o.build (← o.signature.bind a) with
    | some result => return result
    | none => throw (Signature.mismatch "wrong number of arguments")

end Operation

namespace Step

open Parameter (required optional)
open Operation (ofNone ofOne ofTwo ofThree ofFour resolve)

def exactCount : Parameter := optional "count" (.member (.count .exact))

def wholeRows : Parameter := optional "returning" (.member (.returning .representation))

def foreignTable : Parameter := optional "foreign_table" .null

/-- An option that is off unless it is given. -/
def switch (name : String) : Parameter := optional name (.bool false)

/-- A filter of a column by one value, which is called by the second name. -/
def columnFilter (name argument : String) (build : Value → Value → Step) : Operation Step :=
  ⟨name, ⟨[required "column", required argument], []⟩, ofTwo build⟩

/-- A step without arguments. -/
def bare (name : String) (s : Step) : Operation Step := ⟨name, ⟨[], []⟩, ofNone s⟩

def verbs : List (Operation Step) :=
  [⟨"select", ⟨[optional "columns" (.text "*")], [exactCount, switch "returning"]⟩,
      ofThree select⟩,
    ⟨"insert", ⟨[required "data"], [optional "on_conflict" .null, wholeRows, exactCount]⟩,
      ofFour insert⟩,
    ⟨"upsert", ⟨[required "data"], [optional "on_conflict" .null, wholeRows, exactCount]⟩,
      ofFour upsert⟩,
    ⟨"update", ⟨[required "data"], [wholeRows, exactCount]⟩, ofThree update⟩,
    ⟨"delete", ⟨[], [wholeRows, exactCount]⟩, ofTwo delete⟩]

def filters : List (Operation Step) :=
  [⟨"where", ⟨[required "condition"], []⟩, ofOne filterBy⟩,
    ⟨"filter", ⟨[required "column", required "operator", required "value"], []⟩,
      ofThree filterRaw⟩,
    ⟨"not_", ⟨[required "column", required "operator", required "value"], []⟩,
      ofThree filterNot⟩,
    ⟨"all_of", ⟨[required "conditions"], [foreignTable]⟩, ofTwo allOf⟩,
    ⟨"any_of", ⟨[required "conditions"], [foreignTable]⟩, ofTwo anyOf⟩,
    ⟨"match", ⟨[required "query"], []⟩, ofOne filterMatch⟩,
    columnFilter "eq" "value" (filterCompare .eq),
    columnFilter "neq" "value" (filterCompare .neq),
    columnFilter "gt" "value" (filterCompare .gt),
    columnFilter "gte" "value" (filterCompare .gte),
    columnFilter "lt" "value" (filterCompare .lt),
    columnFilter "lte" "value" (filterCompare .lte),
    columnFilter "like" "pattern" (filterCompare .like),
    columnFilter "ilike" "pattern" (filterCompare .ilike),
    columnFilter "like_all_of" "patterns" (filterPatterns .like .all),
    columnFilter "like_any_of" "patterns" (filterPatterns .like .any),
    columnFilter "ilike_all_of" "patterns" (filterPatterns .ilike .all),
    columnFilter "ilike_any_of" "patterns" (filterPatterns .ilike .any),
    columnFilter "regex_match" "pattern" (filterCompare .regex),
    columnFilter "regex_imatch" "pattern" (filterCompare .iregex),
    columnFilter "is_" "value" filterIs,
    columnFilter "is_distinct" "value" (filterCompare .isDistinct),
    columnFilter "in_" "values" (filterCompare .member),
    columnFilter "within" "values" (filterCompare .member),
    columnFilter "contains" "value" (filterCollection .contains),
    columnFilter "contained_by" "value" (filterCollection .containedBy),
    columnFilter "overlaps" "value" (filterCollection .overlaps),
    columnFilter "range_lt" "range_" (filterCompare .leftOf),
    columnFilter "range_gt" "range_" (filterCompare .rightOf),
    columnFilter "range_gte" "range_" (filterCompare .notLeftOf),
    columnFilter "range_lte" "range_" (filterCompare .notRightOf),
    columnFilter "range_adjacent" "range_" (filterCompare .adjacent),
    ⟨"text_search", ⟨[required "column", required "query"],
      [optional "type" .null, optional "config" .null]⟩, ofFour filterSearch⟩]

/-- The step that the options of an execution plan stand for. -/
def explainOf : List Value → Option Step
  | [analyze, verbose, settings, buffers, wal, format] =>
    some (explain ⟨analyze.truth, verbose.truth, settings.truth, buffers.truth, wal.truth⟩ format)
  | _ => none

def shapes : List (Operation Step) :=
  [⟨"schema", ⟨[required "name"], []⟩, ofOne chooseSchema⟩,
    ⟨"with_custom_media_type", ⟨[required "media_type"], []⟩, ofOne acceptNamed⟩,
    ⟨"order", ⟨[required "column"], [switch "asc", switch "null_first", foreignTable]⟩,
      ofFour order⟩,
    ⟨"limit", ⟨[required "count"], [foreignTable]⟩, ofTwo limit⟩,
    ⟨"range", ⟨[required "from_", required "to"], [foreignTable]⟩, ofThree range⟩,
    bare "single" single,
    bare "maybe_single" maybeSingle,
    bare "csv" (accept .csv),
    bare "geojson" (accept .geojson),
    ⟨"explain", ⟨[], [switch "analyze", switch "verbose", switch "settings", switch "buffers",
      switch "wal", optional "format" (.text "text")]⟩, explainOf⟩,
    bare "rollback" rollback,
    ⟨"returning", ⟨[optional "columns" .null], []⟩, ofOne returnRows⟩]

def operations : List (Operation Step) := verbs ++ filters ++ shapes

/-- The step that a call stands for. -/
def ofCall (name : String) (a : Arguments) : Outcome Step := resolve operations name a

end Step

namespace Update

open Parameter (required optional)
open Operation (ofNone ofOne ofTwo ofThree ofFour resolve)

def operations : List (Operation Update) :=
  [⟨"with_method", ⟨[required "method"], []⟩, ofOne method⟩,
    ⟨"with_query", ⟨[required "key", required "value"], []⟩, ofTwo mergeQuery⟩,
    ⟨"replace_query", ⟨[required "key", required "value"], []⟩, ofTwo replaceQuery⟩,
    ⟨"without_query", ⟨[required "key"], []⟩, ofOne eraseQuery⟩,
    ⟨"with_header", ⟨[required "key", required "value"], []⟩, ofTwo setHeader⟩,
    ⟨"with_headers", ⟨[required "headers"], []⟩, ofOne setHeaders⟩,
    ⟨"replace_header", ⟨[required "key", required "value"], []⟩, ofTwo replaceHeader⟩,
    ⟨"without_header", ⟨[required "key"], []⟩, ofOne eraseHeader⟩,
    ⟨"with_body", ⟨[required "data"], []⟩, ofOne body⟩,
    ⟨"with_schema", ⟨[required "schema"], []⟩, ofOne schema⟩]

/-- The update that a call stands for. -/
def ofCall (name : String) (a : Arguments) : Outcome Update := resolve operations name a

end Update

/-- A reading of a request by name. -/
inductive Reading where
  | query (key : Value)
  | header (name : Value)
  | params
  | queryString

namespace Reading

open Parameter (required optional)
open Operation (ofNone ofOne ofTwo ofThree ofFour resolve)

def operations : List (Operation Reading) :=
  [⟨"get_query", ⟨[required "key"], []⟩, ofOne query⟩,
    ⟨"get_header", ⟨[required "key"], []⟩, ofOne header⟩]

/-- The reading that a call stands for. The two properties take no arguments. -/
def ofCall (name : String) (a : Arguments) : Outcome Reading :=
  if name = "query_params" then .ok params
  else if name = "query_string" then .ok queryString
  else resolve operations name a

def read (r : Request) : Reading → Outcome Value
  | query key => .ok (r.getQuery key)
  | header name => r.getHeader name
  | params => .ok (.map (r.queryParams.map fun e => (.text e.1, .text e.2)))
  | queryString => .ok (.text r.queryString)

end Reading

end RestQuery
