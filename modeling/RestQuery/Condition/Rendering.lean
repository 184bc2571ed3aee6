import RestQuery.Json.Printer

/-!
# Rendering

The text of a value, its text as the operand of a filter and the text of a condition, with maps
written as JSON: the nested form of a condition, its operand and its form as a query parameter.
-/

namespace RestQuery

open Text

namespace Json

/-- A map as JSON. -/
def printMap (entries : List (Value × Value)) : Outcome String := print (.map entries)

end Json

namespace Value

/-- The text of a value. -/
def display (v : Value) : Outcome String := v.displayBy Json.printMap

/-- The text of a value as the operand of a filter. -/
def operandText (v : Value) : Outcome String := v.operandBy Json.printMap

def operandTexts (vs : List Value) : Outcome (List String) := operandsBy Json.printMap vs

end Value

namespace Condition

/-- A condition with its values written out. -/
def clause (c : Condition) : Clause := c.clauseBy Json.printMap

def clauses (cs : List Condition) : List Clause := clausesBy Json.printMap cs

end Condition

/-- The operand texts of the items of a value, with commas between them. -/
def Value.csv (v : Value) : Outcome String :=
  match v.items? with
  | some xs => do return commaJoin (← Value.operandTexts xs)
  | none => .error (.noItems v)

namespace Condition

/-- The text of a condition in the nested syntax. -/
def encode (c : Condition) : Outcome String := c.clause.encode

/-- The condition under any number of negations. -/
def core : Condition → Condition
  | not c => c.core
  | c => c

/-- The right-hand side of a condition on a column: what follows `column=` in a query. -/
def operand : Condition → Outcome String
  | not c => do return "not." ++ (← c.operand)
  | c =>
    match c.clause with
    | .test _ _ operand => operand
    | _ => .error (.argument "operand" "condition" "a column-scoped condition" (.condition c))

/-- A condition as one query parameter: the key and the value. -/
def param : Condition → Outcome (String × String)
  | and cs => do return ("and", ← Clause.group (clauses cs))
  | or cs => do return ("or", ← Clause.group (clauses cs))
  | not c => do
    let (key, value) ← c.param
    return if c.core matches and _ | or _ then ("not." ++ key, value) else (key, "not." ++ value)
  | raw v => .error (.argument "to_param" "condition"
      "a column-scoped or logical condition" (.condition (raw v)))
  | comparison op column v => do return (column, ← operand (comparison op column v))
  | quantified op column vs q => do return (column, ← operand (quantified op column vs q))
  | textSearch op column query l => do return (column, ← operand (textSearch op column query l))
  | between column low high => do return (column, ← operand (between column low high))

end Condition

/-! ### Values that may not be conditions -/

namespace Value

/-- The encoded form of a condition. One that the caller encoded is returned as it is. -/
def encoded : Value → Outcome Value
  | condition (.raw v) => .ok v
  | condition c => do return text (← c.encode)
  | v => .error (.argument "encode" "condition" "a Condition" v)

def operand : Value → Outcome String
  | condition c => c.operand
  | v => .error (.argument "operand" "condition" "a column-scoped condition" v)

def param : Value → Outcome (String × String)
  | condition c => c.param
  | v => .error (.argument "to_param" "condition"
      "a column-scoped or logical condition" v)

end Value

end RestQuery
