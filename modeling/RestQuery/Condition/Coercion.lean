import RestQuery.Condition.Rendering

/-!
# Building conditions

The constructors check what they are given, and `Value.toCondition` reads the short forms of a
condition: a text, or a tuple that starts with an operator. Operators are checked here and never
again. Columns and encoded conditions are Unicode texts; a text that holds half of a surrogate pair
is none of them.
-/

namespace RestQuery

namespace Operator

/-- The operator that a value names. -/
def parse : Value → Outcome Operator
  | .member (.operator op) => .ok op
  | .text s => match ofToken? s with
    | some op => .ok op
    | none => .error (.operator (.text s) "")
  | v => .error (.operator v "")

theorem parse_text_token (op : Operator) : parse (.text op.token) = .ok op := by
  simp [parse, ofToken?_token]

theorem parse_member (op : Operator) : parse (.member (.operator op)) = .ok op := rfl

/-- An operator that does not fit where it stands. -/
def misplaced (op : Operator) (reason : String) : Fault := .operator (.text op.token) reason

end Operator

namespace Condition

/-- The name of a column: a text that is not empty. -/
def columnName (operation : String) (column : Value) : Outcome String :=
  match column with
  | .text s =>
    if s = "" then
      .error (.argument operation "column" "a non-empty string" (.text s))
    else .ok s
  | v => .error (.argument operation "column" "a non-empty string" v)

/-- A comparison by an operator that is known to exist. -/
def compare (op : Operator) (column value : Value) : Outcome Condition := do
  if op.isLogical || op.isQuantifier then
    throw (op.misplaced "use Not, And, Or or ArrayModifier instead")
  if op = .between then
    throw (op.misplaced "use Between for range bounds")
  let column ← columnName op.token column
  if op = .member then
    match value.listItems? with
    | some xs => return comparison .member column (.tuple xs)
    | none => throw (.argument "in" "value" "a list" value)
  else return comparison op column value

def mkComparison (op column value : Value) : Outcome Condition := do
  compare (← Operator.parse op) column value

/-- A comparison with all or any of some values, by an operator that is known to exist. -/
def quantify (op : Operator) (column values quantifier : Value) : Outcome Condition := do
  if !op.isQuantifiable then throw (op.misplaced "does not accept all/any modifiers")
  let q ← Operator.parse quantifier
  if !q.isQuantifier then throw (q.misplaced "modifier must be 'all' or 'any'")
  let column ← columnName op.token column
  match values.listItems? with
  | some xs => return quantified op column xs q
  | none =>
    throw (.argument (op.token ++ "(" ++ q.token ++ ")") "values" "a list" values)

def mkQuantified (op column values quantifier : Value) : Outcome Condition := do
  quantify (← Operator.parse op) column values quantifier

/-- A full-text search by an operator that is known to exist. -/
def search (op : Operator) (column query language : Value) : Outcome Condition := do
  if !op.isTextSearch then throw (op.misplaced "not a full-text search operator")
  return textSearch op (← columnName op.token column) query language

def mkTextSearch (op column query language : Value) : Outcome Condition := do
  search (← Operator.parse op) column query language

def mkBetween (column low high : Value) : Outcome Condition := do
  return between (← columnName "between" column) low high

/-- The value of an option of a condition tuple. -/
def option (name : String) (options : List (Value × Value)) : Value :=
  (Value.lookup name options).getD .null

/-- A condition tuple that ends in options. -/
def withOptions (op : Operator) (column value : Value) (options : List (Value × Value)) :
    Outcome Condition :=
  let all := (option "all" options).truth
  let any := (option "any" options).truth
  let lang := option "lang" options
  let language := if lang.truth then lang else option "config" options
  if all && any then
    .error (.argument op.token "options" "only one of all/any" (.map options))
  else if all || any then
    quantify op column value (.member (.operator (if all then .all else .any)))
  else match language with
    | .null => compare op column value
    | language => search op column value language

/-- A short form that is none. -/
def shapeless (v : Value) : Fault :=
  .argument "to_condition" "condition" "a Condition, a string, or a condition tuple" v

/-- Something other than a list of conditions. -/
def notConditions (operation : String) (v : Value) : Fault :=
  .argument operation "conditions" "a list of conditions" v

/-- The bounds of a `between` tuple. -/
def betweenTuple (column bounds : Value) : Outcome Condition :=
  match bounds.listItems? with
  | some [low, high] => mkBetween column low high
  | _ => .error (.argument "between" "bounds" "a list of two values" bounds)

end Condition

mutual

/-- The condition that a value stands for: itself, a text, or a tuple that starts with an
operator. -/
def Value.toCondition : Value → Outcome Condition
  | .condition c => .ok c
  | .text s => .ok (.raw (.text s))
  | .tuple [head, x] => do
    match ← Operator.parse head with
    | .not => return .not (← x.toCondition)
    | .and => return .and (← x.toConditions "and")
    | .or => return .or (← x.toConditions "or")
    | _ => .error (Condition.shapeless (.tuple [head, x]))
  | .tuple [head, x, y] => do
    match ← Operator.parse head with
    | .between => Condition.betweenTuple x y
    | op => Condition.compare op x y
  | .tuple [head, x, y, .map options] => do
    Condition.withOptions (← Operator.parse head) x y options
  | .tuple (head :: rest) => do
    let _ ← Operator.parse head
    .error (Condition.shapeless (.tuple (head :: rest)))
  | v => .error (Condition.shapeless v)

/-- The conditions that the items of a value stand for. -/
def Value.toConditions (operation : String) : Value → Outcome (List Condition)
  | .list xs => Value.allToConditions xs
  | .tuple xs => Value.allToConditions xs
  | .set xs => Value.allToConditions xs
  | .bytes [] => .ok []
  | .bytes (b :: _) => .error (Condition.shapeless (.int b.toNat))
  | .record fs => Value.fieldsToConditions fs
  | v => .error (Condition.notConditions operation v)

def Value.allToConditions : List Value → Outcome (List Condition)
  | [] => .ok []
  | x :: xs => do return (← x.toCondition) :: (← Value.allToConditions xs)

/-- The fields of a record, each read as a tuple of its name and its value. -/
def Value.fieldsToConditions : List (String × Value) → Outcome (List Condition)
  | [] => .ok []
  | (name, v) :: fs => do
    let c ← match ← Operator.parse (.text name) with
      | .not => do pure (.not (← v.toCondition))
      | .and => do pure (.and (← v.toConditions "and"))
      | .or => do pure (.or (← v.toConditions "or"))
      | _ => .error (Condition.shapeless (.tuple [.text name, v]))
    return c :: (← Value.fieldsToConditions fs)

end

namespace Condition

def mkNot (v : Value) : Outcome Condition := do return .not (← v.toCondition)

def mkAnd (v : Value) : Outcome Condition := do return .and (← v.toConditions "and")

def mkOr (v : Value) : Outcome Condition := do return .or (← v.toConditions "or")

/-- Conditions encoded between parentheses. -/
def group (v : Value) : Outcome String := do
  Clause.group (clauses (← v.toConditions "group"))

end Condition

end RestQuery
