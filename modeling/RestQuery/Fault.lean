import RestQuery.Value.Equality
import RestQuery.Value.Literal

/-!
# Faults

Everything that can go wrong, by cause, with the message of each. A filter operator outside the
vocabulary is also reported to the log. A message that would show a whole number with too many digits
cannot be made, which is a fault of its own.
-/

namespace RestQuery

/-- The operating system's reasons for a failed exchange. -/
inductive LinkError where
  | general | refused | timeout
  deriving DecidableEq

/-- What the server says about a refused request. -/
structure ErrorBody where
  message : String
  code : Value
  details : Value
  hint : Value
  extra : List (Value × Value)

/-- A refused request: the status, the body and the two in one line. -/
structure ErrorReport where
  status : Int
  body : ErrorBody
  line : String

/-- The problems found in a group of settings or in an error body. -/
inductive Problem where
  | missing | notText | notUtf8 | tooShort | rejected | notMap | unknown | badKey | notFields
  deriving DecidableEq

/-- The code of a problem. -/
def Problem.code : Problem → String
  | missing => "missing"
  | notText => "string_type"
  | notUtf8 => "string_unicode"
  | tooShort => "string_too_short"
  | rejected => "value_error"
  | notMap => "dict_type"
  | unknown => "extra_forbidden"
  | badKey => "invalid_key"
  | notFields => "model_type"

/-- How a key of a map appears in the place of a problem. -/
def Value.placeName : Value → String
  | .text s => s
  | .bool b => if b then "1" else "0"
  | v => v.literal

inductive Fault where
  /-- An operator that does not exist, or that does not fit the place where it stands. -/
  | invalidOperator (token : Value) (reason : String)
  /-- An argument that an operation does not take. -/
  | invalidArgument (operation argument expected : String) (actual : Value)
  /-- A body that JSON cannot represent. -/
  | unencodable (kind message : String)
  /-- An exchange that broke down, with the reason if the operating system gave one. -/
  | transport (message : String) (cause : Option LinkError)
  /-- A request that the server refused. -/
  | refused (report : ErrorReport)
  /-- Settings with problems, each at a place. -/
  | invalidSettings (problems : List (String × Problem))
  /-- A value of the right kind that is out of range. -/
  | badValue (message : String)
  /-- A failure foreign to the exchange. -/
  | failure (message : String)
  /-- A value of a kind that does not support what is done with it. -/
  | wrongKind (message : String)
  /-- A value that lacks the operation applied to it. -/
  | unsupported
  | malformedJson
  | malformedText (message : String)

namespace Fault

/-- The text of a fault. -/
def message : Fault → String
  | invalidOperator token reason =>
    "Invalid operator " ++ token.literal ++ (if reason = "" then "" else ": " ++ reason)
  | invalidArgument operation argument expected actual =>
    operation ++ "() expected " ++ argument ++ " to be " ++ expected ++ ", got " ++
      actual.kindName ++ ": " ++ actual.literal
  | unencodable kind message => "Cannot encode body of type " ++ kind ++ ": " ++ message
  | transport message _ => message
  | refused report => report.line
  | invalidSettings problems =>
    let lines := problems.map fun p => p.1 ++ ":" ++ p.2.code
    Text.joinWith ";" (lines.mergeSort fun a b => decide (a ≤ b))
  | badValue message => message
  | failure message => message
  | wrongKind message => message
  | unsupported => ""
  | malformedJson => ""
  | malformedText message => message

/-- A value that has no items to go through. -/
def noItems (v : Value) : Fault := wrongKind (v.kindName ++ " has no items")

/-- A value asked for an operation that it does not have. A record may have a field of that name,
which is no operation either. -/
def lacking (operation : String) (v : Value) : Fault :=
  if v.hasField operation then wrongKind (operation ++ " is a field") else unsupported

/-- A value that cannot be a key. -/
def notAKey (v : Value) : Fault := wrongKind (v.kindName ++ " cannot be a key")

/-- A fault of the caller of a builder, as opposed to one of the exchange. -/
def isContractViolation : Fault → Bool
  | invalidOperator .. | invalidArgument .. => true
  | _ => false

/-- The limit on the digits of a whole number, and how to change it. -/
def digitComplaint (detail : String) : String :=
  "Exceeds the limit (" ++ toString Number.digitLimit ++ " digits) for integer string conversion" ++
    detail ++ "; use sys.set_int_max_str_digits() to increase the limit"

/-- A text with more digits than a whole number may have. -/
def tooManyDigits (count : Nat) : Fault :=
  badValue (digitComplaint (": value has " ++ toString count ++ " digits"))

/-- A whole number with too many digits to be written. -/
def tooLongToWrite : Fault := badValue (digitComplaint "")

/-- A fault whose message shows a value. If the value cannot be written, that is the fault. -/
def showing (v : Value) (f : Fault) : Fault := if v.legible then f else tooLongToWrite

/-- An operator refused. -/
def operator (token : Value) (reason : String) : Fault :=
  showing token (invalidOperator token reason)

/-- An argument refused. -/
def argument (operation argument expected : String) (actual : Value) : Fault :=
  showing actual (invalidArgument operation argument expected actual)

theorem argument_of_legible {actual : Value} (legible : actual.legible = true)
    (operation argument expected : String) :
    Fault.argument operation argument expected actual =
      invalidArgument operation argument expected actual := if_pos legible

end Fault

/-- The severity of a log record. -/
inductive Level where
  | debug | warning | error
  deriving DecidableEq

structure Record where
  level : Level
  message : String
  deriving DecidableEq

/-- The record that goes with a fault: an operator that does not exist is logged when it is
rejected, one that is merely out of place is not. -/
def Fault.records : Fault → List Record
  | .invalidOperator token "" =>
    [⟨.debug, "Rejecting unknown operator token " ++ token.literal⟩]
  | _ => []

/-- The outcome of an operation that can fail. -/
abbrev Outcome (α : Type) := Except Fault α

/-! ### Values from their parts -/

namespace Value

/-- The decimal text of a whole number, up to the limit on its digits. -/
def digitsOf (n : Int) : Outcome String :=
  if (toString n.natAbs).length ≤ Number.digitLimit then .ok (toString n)
  else .error .tooLongToWrite

/-- The first of some values that cannot be a key. -/
def firstUnfit? (keys : List Value) : Option Value := keys.find? (!·.isKey)

/-- The map of some entries, all of whose keys have to be fit for it. -/
def ofEntries (entries : List (Value × Value)) : Outcome Value :=
  match firstUnfit? (entries.map (·.1)) with
  | some k => .error (.notAKey k)
  | none => .ok (.map (mapOf entries))

/-- The set of some items, which have to be fit for keys. -/
def ofItems (items : List Value) : Outcome Value :=
  match firstUnfit? items with
  | some v => .error (.notAKey v)
  | none => .ok (.set (setOf items))

end Value

end RestQuery
