import RestQuery.Condition.Writing
import RestQuery.Json.Notation
import RestQuery.Text.Utf8

/-!
# Records as JSON

A record is more liberal than a map with what it holds: bytes are texts, sets are arrays,
conditions are objects, and more kinds of key have a text. On the other hand it holds no number
that is not finite, and its values are nested up to a limit.
-/

namespace RestQuery.Json

open Text

/-- How many containers a value in a field of a record may lie in. -/
def depthLimit : Nat := 254

/-- A value that lies in `depth` containers is not too deep. -/
def checkDepth (depth : Nat) : Outcome Unit :=
  if depth ≤ depthLimit then .ok () else .error (.badValue "Maximum serialization depth exceeded")

/-- Where bytes cease to be a text. -/
def notText (bs : List UInt8) (start length : Nat) : Fault :=
  let place :=
    if length = 1 then
      "byte 0x" ++ String.ofList (hex 2 ((bs.getD start 0).toNat)) ++ " in position " ++ toString start
    else "bytes in position " ++ toString start ++ "-" ++ toString (start + length - 1)
  .malformedText ("'utf-8' codec can't decode " ++ place ++ ": invalid utf-8")

/-- The text that bytes encode. -/
def bytesText (bs : List UInt8) : Outcome String :=
  match Utf8.decode? bs with
  | some s => .ok s
  | none =>
    let (start, length) := Utf8.firstGap bs
    .error (notText bs start length)

/-- A number, or nothing in place of one that is not finite. -/
def finiteFloat (x : Float) : String := if x.isFinite then float x else "null"

/-- Keys hold no maps. -/
def noMaps : MapWriter := fun entries => .error (.notAKey (.map entries))

mutual

/-- The member name that stands for a key of a map inside a record. -/
def recordKey : Value → Outcome String
  | .text s => .ok s
  | .unpaired ps => .ok (String.ofList (Point.shown ps))
  | .null => .ok "None"
  | .bool b => .ok (bool b)
  | .int n => Value.digitsOf n
  | .float x => .ok (if x.isFinite then Value.floatLiteral x else "None")
  | .bytes bs => bytesText bs
  | .uuid s => .ok s
  | .decimal s => .ok s
  | .date d => .ok d.iso
  | .moment m => .ok (m.iso .minutes)
  | .clock t => .ok (t.iso .minutes)
  | .member m => .ok m.token
  | .tuple xs => do return commaJoin (← recordKeys xs)
  | .condition c => (c.clauseBy noMaps).encode
  | .list xs => .error (.notAKey (.list xs))
  | .set xs => .error (.notAKey (.set xs))
  | .map es => .error (.notAKey (.map es))
  | .record fs => .error (.notAKey (.record fs))

def recordKeys : List Value → Outcome (List String)
  | [] => .ok []
  | x :: xs => do return (← recordKey x) :: (← recordKeys xs)

end

/-- A value without parts, from its text. -/
def leaf (depth : Nat) (text : String) : Outcome String := do
  checkDepth depth
  return text

/-- A word of a vocabulary counts as a container of its token. -/
def word (depth : Nat) (token : String) : Outcome String := leaf (depth + 1) (string token)

mutual

/-- The JSON text of a value inside a record that lies in `depth` containers there. -/
def inner (depth : Nat) : Value → Outcome String
  | .null => leaf depth "null"
  | .bool b => leaf depth (bool b)
  | .int n => leaf depth (toString n)
  | .float x => leaf depth (finiteFloat x)
  | .text s => leaf depth (string s)
  | .unpaired ps => leaf depth (points ps)
  | .bytes bs => do
    checkDepth depth
    return string (← bytesText bs)
  | .uuid s => leaf depth (string s)
  | .decimal s => leaf depth (string s)
  | .date d => leaf depth (string d.iso)
  | .moment m => leaf depth (string (m.iso .minutes))
  | .clock t => leaf depth (string (t.iso .minutes))
  | .member m => word depth m.token
  | .list xs => do
    checkDepth depth
    return array (← innerAll (depth + 1) xs)
  | .tuple xs => do
    checkDepth depth
    return array (← innerAll (depth + 1) xs)
  | .set xs => do
    checkDepth depth
    return array (← innerAll (depth + 1) xs)
  | .map es => do
    checkDepth depth
    return object (Value.uniqueNames (← innerEntries (depth + 1) es))
  | .record fs => do
    checkDepth depth
    return object (← fields (depth + 1) fs)
  | .condition c => do
    checkDepth depth
    return object (← parts (depth + 1) c)

def innerAll (depth : Nat) : List Value → Outcome (List String)
  | [] => .ok []
  | x :: xs => do return (← inner depth x) :: (← innerAll depth xs)

def innerEntries (depth : Nat) : List (Value × Value) → Outcome (List (String × String))
  | [] => .ok []
  | (k, v) :: es => do
    let name ← recordKey k
    return (name, ← inner depth v) :: (← innerEntries depth es)

/-- The fields of a record. -/
def fields (depth : Nat) : List (String × Value) → Outcome (List (String × String))
  | [] => .ok []
  | (k, v) :: fs => do return (k, ← inner depth v) :: (← fields depth fs)

/-- The parts of a condition by name. -/
def parts (depth : Nat) : Condition → Outcome (List (String × String))
  | .comparison op column v => do
    return [("operator", ← word depth op.token), ("column", string column),
      ("value", ← inner depth v)]
  | .quantified op column vs q => do
    let op ← word depth op.token
    return [("operator", op), ("column", string column),
      ("value", array (← innerAll (depth + 1) vs)), ("modifier", ← word depth q.token)]
  | .textSearch op column query language => do
    return [("operator", ← word depth op.token), ("column", string column),
      ("value", ← inner depth query), ("language", ← inner depth language)]
  | .between column low high => do
    return [("column", ← leaf depth (string column)), ("low", ← inner depth low),
      ("high", ← inner depth high)]
  | .not c => do
    checkDepth depth
    return [("condition", object (← parts (depth + 1) c))]
  | .and cs => do
    checkDepth depth
    return [("conditions", array (← partsAll (depth + 1) cs))]
  | .or cs => do
    checkDepth depth
    return [("conditions", array (← partsAll (depth + 1) cs))]
  | .raw v => do return [("text", ← inner depth v)]

def partsAll (depth : Nat) : List Condition → Outcome (List String)
  | [] => .ok []
  | c :: cs => do
    checkDepth depth
    return object (← parts (depth + 1) c) :: (← partsAll depth cs)

end

/-- A record with its fields as members. Numbers are written last, when all else is done. -/
def record (fs : List (String × Value)) : Outcome String := do
  let members ← fields 0 fs
  if Value.fieldsLegible fs then return object members else .error .tooLongToWrite

end RestQuery.Json
