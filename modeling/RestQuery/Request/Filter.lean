import RestQuery.Condition.Coercion
import RestQuery.Request.Basic

/-!
# Filters

A condition becomes one entry of the query, under its column or under `and` and `or`. Filters on
one column replace each other; conjunctions collect in one group. Operator expressions are Unicode
texts, as columns are.
-/

namespace RestQuery

open Text

/-! ### Operator expressions -/

namespace Operator

/-- Nothing more, a last line break aside. -/
def atEnd (s : List Char) : Bool := s.isEmpty || s == ['\n']

def isNameChar (c : Char) : Bool := 'a' ≤ c && c ≤ 'z'

/-- An argument between parentheses at the end of a segment. -/
def isArgument : List Char → Bool
  | '(' :: s =>
    match s.dropWhile fun c => c != '(' && c != ')' with
    | ')' :: rest => atEnd rest
    | _ => false
  | _ => false

/-- The name in a segment `name` or `name(argument)`. -/
def segmentName? (s : List Char) : Option String :=
  let rest := s.dropWhile isNameChar
  if !(s.takeWhile isNameChar).isEmpty && (atEnd rest || isArgument rest) then
    some (String.ofList (s.takeWhile isNameChar))
  else none

/-- Every segment names an operator. -/
def checkSegments (malformed : Fault) : List (List Char) → Outcome Unit
  | [] => .ok ()
  | s :: rest =>
    match segmentName? s with
    | none => .error malformed
    | some name => do
      let _ ← parse (.text name)
      checkSegments malformed rest

/-- The operator expression that a value is: an operator, or names of operators with optional
arguments between dots. -/
def expression (operation : String) : Value → Outcome String
  | .member (.operator op) => .ok op.token
  | .text s =>
    if s = "" then
      .error (.argument operation "operator" "a non-empty string" (.text s))
    else do
      checkSegments (.argument operation "operator" "an operator expression" (.text s))
        (splitChars '.' s.toList)
      return s
  | v => .error (.argument operation "operator" "a non-empty string" v)

end Operator

/-! ### Groups -/

/-- A group with the contents of another at its end; empty groups add nothing. -/
def joinGroups (current : Option String) (addition : String) : String :=
  match current with
  | none => addition
  | some group =>
    if group = "" ∨ group = "()" then addition
    else if addition = "()" then group
    else String.ofList group.toList.dropLast ++ "," ++ String.ofList (addition.toList.drop 1)

namespace Request

/-- The key of the conditions that must all hold. -/
def conjunctionKey : String := "and"

/-- The key of the conditions of which one must hold. -/
def disjunctionKey : String := "or"

/-- The text at a key of the query. -/
def setQuery (r : Request) (key text : String) : Request :=
  { r with query := r.query.replace key text }

/-- A group added to the one at a key of the query. -/
def extendGroup (r : Request) (key group : String) : Request :=
  r.setQuery key (joinGroups (r.query.get? key) group)

/-- The request restricted to the rows for which a condition holds. -/
def restrict (r : Request) (c : Condition) : Outcome Request := do
  let (key, value) ← c.param
  return if key = conjunctionKey then r.extendGroup key value else r.setQuery key value

/-- The request restricted by a condition in any of its forms. -/
def filterBy (r : Request) (condition : Value) : Outcome Request := do
  r.restrict (← condition.toCondition)

/-- An operator expression and an operand stored under a column as they are. -/
def filterRaw (r : Request) (column operator value : Value) : Outcome Request := do
  let expression ← Operator.expression "filter" operator
  r.replaceQuery column (.text (expression ++ "." ++ (← value.operandText)))

/-- The negation of an operator expression stored under a column. -/
def filterNot (r : Request) (column operator value : Value) : Outcome Request := do
  let expression ← Operator.expression "not" operator
  r.replaceQuery column (.text ("not." ++ expression ++ "." ++ (← value.operandText)))

/-- A name within a foreign table, if there is one. -/
def keyWithin (name : String) (table : Value) : Outcome String :=
  if table.truth then do return (← table.display) ++ "." ++ name else .ok name

/-- The group that a text or a list of conditions stands for. -/
def groupOf (key : String) : Value → Outcome String
  | .text s => .ok ("(" ++ s ++ ")")
  | v =>
    if v.sequenceItems?.isSome then Condition.group v
    else .error (.argument key "conditions" "a filter string or a list of conditions" v)

/-- Conditions that must all hold, in addition to those of earlier groups. -/
def allOf (r : Request) (conditions table : Value) : Outcome Request := do
  let group ← groupOf conjunctionKey conditions
  return r.extendGroup (← keyWithin conjunctionKey table) group

/-- Conditions of which one must hold, in place of an earlier group. -/
def anyOf (r : Request) (conditions table : Value) : Outcome Request := do
  let group ← groupOf disjunctionKey conditions
  return r.setQuery (← keyWithin disjunctionKey table) group

/-! ### Named filters -/

/-- A column compared with a value. -/
def filterCompare (r : Request) (op : Operator) (column value : Value) : Outcome Request := do
  r.restrict (← Condition.compare op column value)

/-- One equality for each entry of a map. -/
def filterMatch (r : Request) : Value → Outcome Request
  | .map es => es.foldlM (fun r e => r.filterCompare .eq e.1 e.2) r
  | v => .error (.argument "match" "query" "a mapping of column to value" v)

/-- A column compared with all or any of some patterns; a text is a single pattern. -/
def filterPatterns (r : Request) (op quantifier : Operator) (column patterns : Value) :
    Outcome Request := do
  let values := match patterns with
    | .text s => .list [.text s]
    | v => v
  r.restrict (← Condition.quantify op column values (.member (.operator quantifier)))

/-- The texts that the identity test takes. -/
def identityWords : List String := ["null", "true", "false", "unknown"]

def isIdentity : Value → Bool
  | .null | .bool _ => true
  | .text s => identityWords.contains s
  | _ => false

/-- A column tested for identity with null, a truth value or `unknown`. -/
def filterIs (r : Request) (column value : Value) : Outcome Request :=
  if isIdentity value then r.filterCompare .is column value
  else .error (.argument "is" "value" "None, a bool, or 'unknown'" value)

end Request

/-- The tests of a column that holds a collection. -/
inductive CollectionTest where
  | contains | containedBy | overlaps
  deriving DecidableEq

namespace CollectionTest

def name : CollectionTest → String
  | contains => "contains" | containedBy => "contained_by" | overlaps => "overlaps"

def operator : CollectionTest → Operator
  | contains => .contains | containedBy => .containedBy | overlaps => .overlaps

/-- The text of a collection: a text is one already, a list goes between braces and a map is
written as JSON. -/
def operand (test : CollectionTest) : Value → Outcome String
  | .text s => .ok s
  | .list xs => do return "\x7b" ++ (← (Value.list xs).csv) ++ "\x7d"
  | .tuple xs => do return "\x7b" ++ (← (Value.tuple xs).csv) ++ "\x7d"
  | .map es => Json.print (.map es)
  | v => .error (.argument test.name "value" "a string, a list, or a mapping" v)

end CollectionTest

namespace Request

def filterCollection (r : Request) (test : CollectionTest) (column value : Value) :
    Outcome Request := do
  let text ← test.operand value
  r.filterCompare test.operator column (.text text)

/-- The operator of a kind of full-text search. -/
def searchOperator : Value → Outcome Operator
  | .null => .ok .fullText
  | .text "plain" => .ok .plainText
  | .text "phrase" => .ok .phraseText
  | .text "websearch" => .ok .webText
  | v =>
    if v.isKey then
      .error (.argument "text_search" "type" "None, 'plain', 'phrase' or 'websearch'" v)
    else .error (.notAKey v)

/-- A full-text search of a column, in a language unless that is empty. -/
def filterSearch (r : Request) (column query kind language : Value) : Outcome Request := do
  let op ← searchOperator kind
  if language.truth then r.restrict (← Condition.search op column query language)
  else r.filterCompare op column query

end Request

end RestQuery
