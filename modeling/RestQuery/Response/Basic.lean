import RestQuery.Json.Parser
import RestQuery.Request.Basic
import RestQuery.Response.Refusal
import RestQuery.Text.Blank
import RestQuery.Text.Digit

/-!
# Responses

What comes back for a request: the status, the headers and a body, which is read as JSON if its
media type says so. A map that comes with an error status is a refusal.
-/

namespace RestQuery

open Text

/-- A response as it is received. -/
structure RawResponse where
  status : Int
  headers : Headers
  body : Value

namespace RawResponse

def ofValues (status : Int) (headers body : Value) : Outcome RawResponse := do
  return ⟨status, ← Headers.ofValue headers, body⟩

/-- The body as text. -/
def text (r : RawResponse) : Outcome Value :=
  match r.body with
  | .bytes bs => match Utf8.decode? bs with
    | some s => .ok (.text s)
    | none => .error (.malformedText "")
  | v => .ok v

def jsonType : String := "application/json; charset=utf-8"

/-- A JSON response with some headers of its own; nothing stands for no headers. -/
def json (status : Int) (payload headers : Value) : Outcome RawResponse := do
  let own ← if headers.truth then
      match headers with
      | .map es => pure es
      | v => throw (.noItems v)
    else pure []
  let body ← Json.print payload
  ofValues status (.map ((.text "content-type", .text jsonType) :: own)) (.bytes (Utf8.encode body))

/-- The response of a server that has nothing to say: no rows. -/
def noRows : RawResponse :=
  ⟨200, .ofEntries [("content-type", jsonType)], .bytes (Utf8.encode "[]")⟩

end RawResponse

/-! ### Headers of a response -/

/-- A content type that declares JSON. -/
def isJsonType (contentType : String) : Bool :=
  let mediaType := lower (trim (beforeFirst ';' contentType))
  mediaType = "application/json" || endsWith "+json" mediaType

/-- The most characters of a text that a complaint about it shows. -/
def shownLength : Nat := 200

/-- The number that digits write; digit signs without a place value are refused. -/
def readCount (s : String) : Outcome Nat :=
  let leading := (s.toList.takeWhile isDecimal).length
  if Number.digitLimit < leading then .error (.tooManyDigits leading)
  else match readDecimal? 0 s.toList with
    | some n => .ok n
    | none => .error (.badValue ("invalid literal for int() with base 10: " ++
        String.ofList ((quoted s).toList.take shownLength)))

/-- The total in a range such as `0-24/3573`, if it is known. -/
def parseCount (range : String) : Outcome (Option Nat) :=
  if contains '/' range then
    let total := trim (afterLast '/' range)
    if total ≠ "" ∧ total.toList.all isDigit then do return some (← readCount total)
    else .ok none
  else .ok none

/-- The statuses of a refusal. -/
def isErrorStatus (status : Int) : Bool := 400 ≤ status && status ≤ 599

/-! ### Decoding -/

structure Response where
  status : Int
  data : Value
  /-- The number of rows in all, if it is known. -/
  count : Option Nat
  headers : Headers
  refusal : Option ErrorReport

namespace Response

/-- Neither an error status nor a refusal. -/
def ok (r : Response) : Bool := r.refusal.isNone && r.status < 400

/-- The text of a body: JSON has to be well-formed UTF-8, anything else is decoded leniently. -/
def bodyText (json : Bool) : Value → Outcome Value
  | .bytes bs =>
    if json then
      match Utf8.decode? bs with
      | some s => .ok (.text s)
      | none => .error (.malformedText "")
    else .ok (.text (Utf8.decodeLenient bs))
  | v => .ok v

/-- The data in a body. -/
def bodyData (json : Bool) (body : Value) : Outcome Value := do
  let text ← bodyText json body
  if !text.truth then return .null
  else if json then Json.parse text
  else return text

/-- The refusal that comes with an error status. -/
def refusalOf (status : Int) (data : Value) : Outcome (Option ErrorReport) :=
  if isErrorStatus status && data.isMap then do
    return some (← ErrorReport.of status (← ErrorBody.ofValue data))
  else .ok none

/-- The row count that the headers give. -/
def countOf (h : Headers) : Outcome (Option Nat) :=
  match h.find? "content-range" with
  | some range => parseCount range
  | none => .ok none

def declaresJson (h : Headers) : Bool := ((h.find? "content-type").map isJsonType).getD false

/-- The response that was received; a refusal is part of it. -/
def decode (raw : RawResponse) : Outcome Response := do
  let count ← countOf raw.headers
  let data ← bodyData (declaresJson raw.headers) raw.body
  return { status := raw.status, data, count, headers := raw.headers,
           refusal := ← refusalOf raw.status data }

/-- A response with a refusal made a fault, if that is asked for. -/
def deliver (raising : Bool) (r : Response) : Outcome Response :=
  match r.refusal with
  | some report => if raising then .error (.refused report) else .ok r
  | none => .ok r

end Response

end RestQuery
