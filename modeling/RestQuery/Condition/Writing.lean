import RestQuery.Condition.Clause

/-!
# Writing values and conditions

The text of a value on its own, its text as the operand of a filter, and the clause of a
condition. Nothing is escaped: the caller keeps separators out of the values. How a map is written
is a parameter, since maps are written as JSON and JSON names the keys of some maps by the text of
a condition.
-/

namespace RestQuery

open Text

/-- The text of a value other than a condition. Half of a surrogate pair, which has no form in UTF-8,
appears as the replacement character. -/
def Value.plainText : Value → String
  | .text s | .uuid s | .decimal s => s
  | .unpaired ps => String.ofList (Point.shown ps)
  | .date d => d.iso
  | .moment m => m.spaced
  | .clock t => t.iso .exact
  | .member m => m.family ++ "." ++ m.name
  | .record fs => joinWith " " ((Value.fieldLiterals fs).map fun f => f.1 ++ "=" ++ f.2)
  | v => v.literal

/-- The text of a value other than a condition, unless a number in it is too long. -/
def Value.ownText (v : Value) : Outcome String :=
  if v.legible then .ok v.plainText else .error .tooLongToWrite

/-- How the entries of a map are written. -/
abbrev MapWriter := List (Value × Value) → Outcome String

mutual

/-- The text of a value, where maps are written by `w`. -/
def Value.displayBy (w : MapWriter) : Value → Outcome String
  | .condition c => (c.clauseBy w).encode
  | v => v.ownText

/-- The text of a value as the operand of a filter, where maps are written by `w`. -/
def Value.operandBy (w : MapWriter) : Value → Outcome String
  | .null => .ok "null"
  | .bool b => .ok (if b then "true" else "false")
  | .member m => .ok m.token
  | .date d => .ok d.iso
  | .moment m => .ok (m.iso .exact)
  | .clock t => .ok (t.iso .exact)
  | .map es => w es
  | .list xs => do return "[" ++ commaJoin (← Value.operandsBy w xs) ++ "]"
  | .tuple xs => do return "[" ++ commaJoin (← Value.operandsBy w xs) ++ "]"
  | .condition c => (c.clauseBy w).encode
  | v => v.ownText

def Value.operandsBy (w : MapWriter) : List Value → Outcome (List String)
  | [] => .ok []
  | x :: xs => do return (← x.operandBy w) :: (← Value.operandsBy w xs)

/-- A condition with its values written out, where maps are written by `w`. -/
def Condition.clauseBy (w : MapWriter) : Condition → Clause
  | .comparison op column v =>
    match op, v with
    | .member, .tuple xs =>
      .test column "." (do return "in.(" ++ commaJoin (← Value.operandsBy w xs) ++ ")")
    | op, v => .test column "." (do return op.token ++ "." ++ (← v.operandBy w))
  | .quantified op column vs q =>
    .test column "=" (do
      let values := commaJoin (← Value.operandsBy w vs)
      return op.token ++ "(" ++ q.token ++ ").\x7b" ++ values ++ "\x7d")
  | .textSearch op column query language =>
    if language.truth then
      .test column "=" (do
        let language ← language.displayBy w
        return op.token ++ "(" ++ language ++ ")." ++ (← query.displayBy w))
    else .test column "." (do return op.token ++ "." ++ (← query.operandBy w))
  | .between column low high =>
    .test column "." (do
      let low ← low.operandBy w
      return "between.[" ++ low ++ "," ++ (← high.operandBy w) ++ "]")
  | .not c => .not (c.clauseBy w)
  | .and cs => .and (Condition.clausesBy w cs)
  | .or cs => .or (Condition.clausesBy w cs)
  | .raw v =>
    match v with
    | .text s => .raw s
    | v => .foreign v.kindName (v.displayBy w)

def Condition.clausesBy (w : MapWriter) : List Condition → List Clause
  | [] => []
  | c :: cs => c.clauseBy w :: Condition.clausesBy w cs

end

end RestQuery
