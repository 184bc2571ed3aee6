import RestQuery.Json.Record

/-!
# Writing JSON

Values as compact ASCII JSON. Identifiers, decimals, dates and times become texts and words their
tokens; bytes, sets and conditions cannot be written, except inside a record.
-/

namespace RestQuery.Json

/-- The member name that stands for a key of a map, between double quotes. -/
def memberName : Value → Outcome String
  | .text s => .ok (string s)
  | .unpaired ps => .ok (points ps)
  | .null => .ok (string "null")
  | .bool b => .ok (string (bool b))
  | .int n => do return string (← Value.digitsOf n)
  | .float x => .ok (string (float x))
  | v => .error (.wrongKind
      ("keys must be str, int, float, bool or None, not " ++ v.kindName))

def unserializable (kind : String) : Fault :=
  .wrongKind ("Object of type " ++ kind ++ " is not JSON serializable")

mutual

/-- The JSON text of a value. -/
def print : Value → Outcome String
  | .null => .ok "null"
  | .bool b => .ok (bool b)
  | .int n => Value.digitsOf n
  | .float x => .ok (float x)
  | .text s => .ok (string s)
  | .unpaired ps => .ok (points ps)
  | .bytes _ => .error (unserializable "bytes")
  | .list xs => do return array (← printAll xs)
  | .tuple xs => do return array (← printAll xs)
  | .set _ => .error (unserializable "set")
  | .map es => do return braces (← printEntries es)
  | .uuid s => .ok (string s)
  | .decimal s => .ok (string s)
  | .date d => .ok (string d.iso)
  | .moment m => .ok (string (m.iso .exact))
  | .clock t => .ok (string (t.iso .exact))
  | .member m => .ok (string m.token)
  | .record fs => record fs
  | .condition c => .error (unserializable c.shape)

def printAll : List Value → Outcome (List String)
  | [] => .ok []
  | x :: xs => do return (← print x) :: (← printAll xs)

def printEntries : List (Value × Value) → Outcome (List (String × String))
  | [] => .ok []
  | (k, v) :: es => do
    let name ← memberName k
    return (name, ← print v) :: (← printEntries es)

end

end RestQuery.Json
