import RestQuery.Number.FloatText
import RestQuery.Text.Quoted
import RestQuery.Value.Basic

/-!
# Literals

The source form of a value, used in messages and for the items of a container shown as text. It can
be written unless some whole number in it is too long.
-/

namespace RestQuery

open Text

namespace Value

def boolLiteral (b : Bool) : String := if b then "True" else "False"

def floatLiteral (x : Float) : String := Number.floatText Number.plainSpelling x

def memberLiteral (m : Member) : String :=
  "<" ++ m.family ++ "." ++ m.name ++ ": " ++ quoted m.token ++ ">"

def operatorLiteral (op : Operator) : String := memberLiteral (.operator op)

/-- Items between parentheses; a single one is followed by a comma. -/
def tupleLiteral (items : List String) : String :=
  match items with
  | [s] => "(" ++ s ++ ",)"
  | _ => "(" ++ joinWith ", " items ++ ")"

/-- A name applied to named arguments. -/
def applied (name : String) (arguments : List (String × String)) : String :=
  name ++ "(" ++ joinWith ", " (arguments.map fun a => a.1 ++ "=" ++ a.2) ++ ")"

end Value

mutual

/-- The source form of a value. -/
def Value.literal : Value → String
  | .null => "None"
  | .bool b => Value.boolLiteral b
  | .int n => toString n
  | .float x => Value.floatLiteral x
  | .text s => quoted s
  | .unpaired ps => quotedPoints ps
  | .bytes bs => quotedBytes bs
  | .list xs => "[" ++ joinWith ", " (Value.literals xs) ++ "]"
  | .tuple xs => Value.tupleLiteral (Value.literals xs)
  | .set xs =>
    match Value.literals xs with
    | [] => "set()"
    | items => "\x7b" ++ joinWith ", " items ++ "\x7d"
  | .map es => "\x7b" ++ joinWith ", " (Value.entryLiterals es) ++ "\x7d"
  | .uuid s => "UUID(" ++ quoted s ++ ")"
  | .decimal s => "Decimal(" ++ quoted s ++ ")"
  | .date d => d.literal
  | .moment m => m.literal
  | .clock t => t.literal
  | .member m => Value.memberLiteral m
  | .record fs => Value.applied "Row" (Value.fieldLiterals fs)
  | .condition c => c.literal

def Value.literals : List Value → List String
  | [] => []
  | x :: xs => x.literal :: Value.literals xs

def Value.entryLiterals : List (Value × Value) → List String
  | [] => []
  | (k, v) :: es => (k.literal ++ ": " ++ v.literal) :: Value.entryLiterals es

def Value.fieldLiterals : List (String × Value) → List (String × String)
  | [] => []
  | (k, v) :: fs => (k, v.literal) :: Value.fieldLiterals fs

/-- The source form of a condition: its shape and its parts by name. -/
def Condition.literal : Condition → String
  | .comparison op column v =>
    Value.applied "Comparison"
      [("operator", Value.operatorLiteral op), ("column", quoted column), ("value", v.literal)]
  | .quantified op column vs q =>
    Value.applied "ArrayModifier"
      [("operator", Value.operatorLiteral op), ("column", quoted column),
        ("value", Value.tupleLiteral (Value.literals vs)), ("modifier", Value.operatorLiteral q)]
  | .textSearch op column query language =>
    Value.applied "TextSearch"
      [("operator", Value.operatorLiteral op), ("column", quoted column),
        ("value", query.literal), ("language", language.literal)]
  | .between column low high =>
    Value.applied "Between"
      [("column", quoted column), ("low", low.literal), ("high", high.literal)]
  | .not c => Value.applied "Not" [("condition", c.literal)]
  | .and cs => Value.applied "And" [("conditions", Value.tupleLiteral (Condition.literals cs))]
  | .or cs => Value.applied "Or" [("conditions", Value.tupleLiteral (Condition.literals cs))]
  | .raw v => Value.applied "Raw" [("text", v.literal)]

def Condition.literals : List Condition → List String
  | [] => []
  | c :: cs => c.literal :: Condition.literals cs

end

mutual

/-- A value whose source form can be written: no whole number in it has too many digits. -/
def Value.legible : Value → Bool
  | .int n => (toString n.natAbs).length ≤ Number.digitLimit
  | .list xs | .tuple xs | .set xs => Value.allLegible xs
  | .map es => Value.entriesLegible es
  | .record fs => Value.fieldsLegible fs
  | .condition c => c.legible
  | _ => true

def Value.allLegible : List Value → Bool
  | [] => true
  | x :: xs => x.legible && Value.allLegible xs

def Value.entriesLegible : List (Value × Value) → Bool
  | [] => true
  | (k, v) :: es => k.legible && (v.legible && Value.entriesLegible es)

def Value.fieldsLegible : List (String × Value) → Bool
  | [] => true
  | (_, v) :: fs => v.legible && Value.fieldsLegible fs

def Condition.legible : Condition → Bool
  | .comparison _ _ v => v.legible
  | .quantified _ _ vs _ => Value.allLegible vs
  | .textSearch _ _ query language => query.legible && language.legible
  | .between _ low high => low.legible && high.legible
  | .not c => c.legible
  | .and cs | .or cs => Condition.allLegible cs
  | .raw v => v.legible

def Condition.allLegible : List Condition → Bool
  | [] => true
  | c :: cs => c.legible && Condition.allLegible cs

end

example : (Value.tuple [.text "it's"]).literal = "(\"it's\",)" := by decide

example : (Value.condition (.not (.raw (.text "a")))).literal =
    "Not(condition=Raw(text='a'))" := by decide

end RestQuery
