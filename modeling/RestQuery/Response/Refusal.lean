import RestQuery.Condition.Rendering

/-!
# Refusals

What the server says about a request that it refuses: a message and a code, perhaps with details
and a hint, and whatever other fields come with them.
-/

namespace RestQuery

open Text

namespace ErrorBody

/-- The fields with a meaning of their own. -/
def fieldNames : List String := ["message", "code", "details", "hint"]

/-- A field that is known by name. -/
def isField : Value → Bool
  | .text s => fieldNames.contains s
  | _ => false

def field (name : String) (entries : List (Value × Value)) : Value :=
  (Value.lookup name entries).getD .null

/-- The message: nothing is the empty text, and anything but a text is written as JSON. -/
def messageText : Value → Outcome String
  | .null => .ok ""
  | .text s => .ok s
  | .unpaired ps => .ok (String.ofList (Point.shown ps))
  | v => Json.print v

/-- The problems with the names of the fields. -/
def keyProblems (entries : List (Value × Value)) : List (String × Problem) :=
  entries.filterMap fun e => match e.1 with
    | .text _ | .unpaired _ => none
    | key => some (key.placeName, .badKey)

/-- The error body that a map stands for. A name that holds half of a surrogate pair is the only
problem reported. -/
def ofValue : Value → Outcome ErrorBody
  | .map entries =>
    match messageText (field "message" entries), keyProblems entries with
    | .error (.wrongKind message), _ => .error (.wrongKind message)
    | read, found =>
      if entries.any (·.1.isUnpaired) then .error (.invalidSettings [("", .notUtf8)])
      else match read, found with
        | .ok message, [] => .ok {
            message
            code := field "code" entries
            details := field "details" entries
            hint := field "hint" entries
            extra := entries.filter fun e => !isField e.1 }
        | .ok _, found => .error (.invalidSettings found)
        | .error _, found => .error (.invalidSettings (("message", .rejected) :: found))
  | _ => .error (.invalidSettings [("", .notFields)])

end ErrorBody

namespace ErrorReport

/-- The code between brackets, unless there is none. -/
def codeText (code : Value) : Outcome String :=
  if code.truth then do return " [" ++ (← code.display) ++ "]" else .ok ""

/-- The report of a refusal. -/
def of (status : Int) (body : ErrorBody) : Outcome ErrorReport := do
  let code ← codeText body.code
  return ⟨status, body, "PostgREST error " ++ toString status ++ code ++ ": " ++ body.message⟩

end ErrorReport

end RestQuery
