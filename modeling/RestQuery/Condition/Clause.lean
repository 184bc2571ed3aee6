import RestQuery.Fault

/-!
# Clauses

A condition whose values have been written out. A clause can be nested in a group, where it is
one text, or stand alone, where it is split into a query key and a value. A value that cannot be
written is a fault at its own place, so that the first of several faults is the one reported.
-/

namespace RestQuery

open Text

inductive Clause where
  /-- A test of one column. -/
  | test (column separator : String) (operand : Outcome String)
  | not (c : Clause)
  | and (cs : List Clause)
  | or (cs : List Clause)
  /-- A clause encoded by the caller. -/
  | raw (text : String)
  /-- Something other than a text that the caller passed as an encoded clause: its kind, and what
  it shows where it is put into a text. -/
  | foreign (kind : String) (shown : Outcome String)

namespace Clause

/-- A clause without a text among those to be joined. -/
def unjoinable (index : Nat) (kind : String) : Fault :=
  .wrongKind ("sequence item " ++ toString index ++ ": expected str instance, " ++ kind ++ " found")

/-- The texts of some pieces, the first of them at `index`, unless one is no text but of some other
kind. -/
def joinable (index : Nat) : List (Except String String) → Outcome (List String)
  | [] => .ok []
  | .error kind :: _ => .error (unjoinable index kind)
  | .ok s :: rest => do return s :: (← joinable (index + 1) rest)

mutual

/-- The text of a clause inside a longer one. -/
def shown : Clause → Outcome String
  | test column separator operand => do return column ++ separator ++ (← operand)
  | not c => do return "not." ++ (← shown c)
  | and cs => do return "and(" ++ commaJoin (← joinable 0 (← pieces cs)) ++ ")"
  | or cs => do return "or(" ++ commaJoin (← joinable 0 (← pieces cs)) ++ ")"
  | raw s => .ok s
  | foreign _ shown => shown

/-- What each clause comes to: its text, or the kind of what is none. -/
def pieces : List Clause → Outcome (List (Except String String))
  | [] => .ok []
  | .foreign kind _ :: cs => do return .error kind :: (← pieces cs)
  | c :: cs => do
    let s ← shown c
    return .ok s :: (← pieces cs)

end

/-- The text of a clause in the nested syntax. -/
def encode : Clause → Outcome String
  | foreign kind _ => .error (.wrongKind ("__str__ returned non-string (type " ++ kind ++ ")"))
  | c => c.shown

/-- Clauses between parentheses. -/
def group (cs : List Clause) : Outcome String := do
  return "(" ++ commaJoin (← joinable 0 (← pieces cs)) ++ ")"

/-- A group under any number of negations. -/
def isGroup : Clause → Bool
  | and _ | or _ => true
  | not c => c.isGroup
  | _ => false

end Clause

end RestQuery
