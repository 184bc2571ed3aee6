import RestQuery.Request.Call

/-!
# Clients

The settings of a connection to one server, and the request that every query on it starts from.
Settings are checked together: all their problems are reported, each at its place.
-/

namespace RestQuery

open Text

structure Client where
  /-- The address of the server, which does not end in a slash. -/
  baseUrl : String
  apiKey : String
  schema : String
  authHeaders : List (String × String)
  restPath : String

namespace Client

/-- What the check of one setting finds. -/
abbrev Checked (α : Type) := Except (List (String × Problem)) α

def problems {α : Type} : Checked α → List (String × Problem)
  | .ok _ => []
  | .error found => found

/-- The text that a value is; bytes stand for the text they encode, and words for their tokens. -/
def textOf : Value → Except Problem String
  | .text s => .ok s
  | .member m => .ok m.token
  | .bytes bs => match Utf8.decode? bs with
    | some s => .ok s
    | none => .error .notUtf8
  | _ => .error .notText

def checkText (place : String) (v : Value) : Checked String :=
  match textOf v with
  | .ok s => .ok s
  | .error p => .error [(place, p)]

def checkNonEmpty (place : String) (v : Value) : Checked String := do
  let s ← checkText place v
  if s = "" then .error [(place, .tooShort)] else .ok s

/-- An address without the slashes at its end. -/
def checkUrl (place : String) (v : Value) : Checked String := do
  let s := dropTrailing '/' (← checkNonEmpty place v)
  if s = "" then .error [(place, .rejected)] else .ok s

/-- The texts of an entry of the extra headers. -/
def checkHeader (place : String) (e : Value × Value) : Checked (String × String) :=
  let place := place ++ "." ++ e.1.placeName
  match checkText (place ++ ".[key]") e.1, checkText place e.2 with
  | .ok name, .ok text => .ok (name, text)
  | name, text => .error (problems name ++ problems text)

def checkHeaderList (place : String) :
    List (Value × Value) → Checked (List (String × String))
  | [] => .ok []
  | e :: es =>
    match checkHeader place e, checkHeaderList place es with
    | .ok h, .ok hs => .ok (h :: hs)
    | h, hs => .error (problems h ++ problems hs)

/-- Names that differ as bytes and text may be one name; the last text wins. -/
def uniqueHeaders (headers : List (String × String)) : List (String × String) :=
  headers.foldl (fun hs h => Headers.put h.1 h.2 hs) []

def checkHeaders (place : String) : Value → Checked (List (String × String))
  | .map es => do return uniqueHeaders (← checkHeaderList place es)
  | _ => .error [(place, .notMap)]

/-- A setting that has to be given. -/
def required {α : Type} (settings : List (String × Value)) (name : String)
    (check : String → Value → Checked α) : Checked α :=
  match settings.lookup name with
  | some v => check name v
  | none => .error [(name, .missing)]

def optional {α : Type} (settings : List (String × Value)) (name : String) (default : α)
    (check : String → Value → Checked α) : Checked α :=
  match settings.lookup name with
  | some v => check name v
  | none => .ok default

def defaultSchema : String := "public"

def defaultRestPath : String := "/rest/v1"

/-- The schema goes by two names, of which the first is preferred. -/
def schemaSetting (settings : List (String × Value)) : String :=
  if (settings.lookup "schema").isSome then "schema" else "schema_name"

/-- The names of the settings that these settings may have. -/
def knownSettings (settings : List (String × Value)) : List String :=
  ["base_url", "api_key", schemaSetting settings, "auth_headers", "rest_path"]

def unknownSettings (settings : List (String × Value)) : List (String × Problem) :=
  (settings.filter fun s => !(knownSettings settings).contains s.1).map fun s => (s.1, .unknown)

/-- The client that some settings describe. -/
def ofSettings (settings : List (String × Value)) : Outcome Client :=
  let url := required settings "base_url" checkUrl
  let key := required settings "api_key" checkText
  let schema := optional settings (schemaSetting settings) defaultSchema checkNonEmpty
  let headers := optional settings "auth_headers" [] checkHeaders
  let path := optional settings "rest_path" defaultRestPath checkText
  match url, key, schema, headers, path, unknownSettings settings with
  | .ok baseUrl, .ok apiKey, .ok schema, .ok authHeaders, .ok restPath, [] =>
    .ok { baseUrl, apiKey, schema, authHeaders, restPath }
  | _, _, _, _, _, unknown =>
    .error (.invalidSettings
      (problems url ++ problems key ++ problems schema ++ problems headers ++ problems path ++
        unknown))

/-! ### Requests -/

/-- The URL of a relation. -/
def relationUrl (c : Client) (relation : String) : String :=
  c.baseUrl ++ c.restPath ++ "/" ++ relation

/-- The headers that come from the settings; the extra headers win over the key. -/
def defaultHeaders (c : Client) : List (String × String) :=
  let extra := c.authHeaders.map fun h => (lower h.1, h.2)
  uniqueHeaders ([("apikey", c.apiKey), ("authorization", "Bearer " ++ c.apiKey)] ++ extra)

/-- What this library calls itself. -/
def agent : String := "postgrest-builder/0.1.0"

/-- The headers of a new request. -/
def seedHeaders (c : Client) : Headers :=
  .ofEntries ([("x-client-info", agent), ("content-type", "application/json"),
    ("accept", MediaType.default.token)] ++ c.defaultHeaders)

/-- A new request for a relation. -/
def seed (c : Client) (relation : String) : Request :=
  { url := .text (c.relationUrl relation), headers := c.seedHeaders, schema := .text c.schema }

/-- A new request for the relation that a value names. -/
def request (c : Client) (relation : Value) : Outcome Request :=
  match relation with
  | .text s =>
    if s = "" then .error (.argument "from" "relation" "a non-empty string" (.text s))
    else .ok (c.seed s)
  | v => .error (.argument "from" "relation" "a non-empty string" v)

end Client

/-- Where the building of a request starts. -/
inductive Start where
  /-- With a client and a relation. -/
  | client (settings : List (String × Value)) (relation : Value)
  /-- With some of the parts of a request. -/
  | parts (arguments : List (String × Value))

namespace Start

/-- The parts of a request, of which only the URL has to be given. -/
def signature : Signature :=
  ⟨[], [.required "url", .optional "method" (.member (.method .get)), .optional "query" (.tuple []),
    .optional "headers" (.map []), .optional "body" .null, .optional "schema" .null]⟩

/-- The request to start from. -/
def request : Start → Outcome Request
  | client settings relation => do (← Client.ofSettings settings).request relation
  | parts arguments => do
    match ← signature.bind ⟨[], arguments⟩ with
    | [url, method, query, headers, body, schema] =>
      Request.create url method query headers body schema
    | _ => throw (Signature.mismatch "wrong number of arguments")

/-- What starting a request writes to the log: the relation asked for, valid or not, if it can be
written. -/
def records : Start → List Record
  | client settings relation =>
    match Client.ofSettings settings with
    | .ok _ =>
      if relation.legible then [⟨.debug, "Building request for relation " ++ relation.literal⟩]
      else []
    | .error _ => []
  | parts _ => []

end Start

/-- A change of a request: a step of the builder or an update of one part. -/
inductive Change where
  | step (s : Step)
  | update (u : Update)

namespace Change

def apply (r : Request) : Change → Outcome Request
  | step s => s.apply r
  | update u => u.apply r

/-- Changes one after the other, up to the first that fails or cannot even be read. -/
def applyAll (r : Request) : List (Outcome Change) → Outcome Request
  | [] => .ok r
  | .error f :: _ => .error f
  | .ok c :: cs => do applyAll (← c.apply r) cs

/-- The change carries a new body. -/
def setsBody : Change → Bool
  | step (.insert ..) | step (.upsert ..) | step (.update ..) | update (.body _) => true
  | _ => false

/-- The change carries a new schema. -/
def setsSchema : Change → Bool
  | step (.chooseSchema _) | update (.schema _) => true
  | _ => false

end Change

/-- A request built from its start, and what the building writes to the log. -/
def Request.build (start : Outcome Start) (changes : List (Outcome Change)) :
    Outcome Request × List Record :=
  match start with
  | .error f => (.error f, f.records)
  | .ok s =>
    match s.request.bind fun r => Change.applyAll r changes with
    | .ok r => (.ok r, s.records)
    | .error f => (.error f, s.records ++ f.records)

end RestQuery
