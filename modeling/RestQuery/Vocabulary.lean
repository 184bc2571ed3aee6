/-!
# Closed vocabularies

The words a request is made of: filter operators, HTTP methods, row counts, representations,
media types and span kinds. Each word has the name of its member and the text sent on the wire.
-/

namespace RestQuery

/-- The filter operators. -/
inductive Operator where
  | eq | neq | gt | gte | lt | lte
  | like | ilike | regex | iregex
  | member | is | isDistinct
  | fullText | plainText | phraseText | webText
  | contains | containedBy | overlaps
  | leftOf | rightOf | notRightOf | notLeftOf | adjacent
  | not | and | or | all | any | between
  deriving DecidableEq

namespace Operator

/-- The token of an operator in a filter. -/
def token : Operator → String
  | eq => "eq" | neq => "neq" | gt => "gt" | gte => "gte" | lt => "lt" | lte => "lte"
  | like => "like" | ilike => "ilike" | regex => "match" | iregex => "imatch"
  | member => "in" | is => "is" | isDistinct => "isdistinct"
  | fullText => "fts" | plainText => "plfts" | phraseText => "phfts" | webText => "wfts"
  | contains => "cs" | containedBy => "cd" | overlaps => "ov"
  | leftOf => "sl" | rightOf => "sr" | notRightOf => "nxr" | notLeftOf => "nxl" | adjacent => "adj"
  | not => "not" | and => "and" | or => "or" | all => "all" | any => "any"
  | between => "between"

/-- Every operator, once. -/
def vocabulary : List Operator :=
  [eq, neq, gt, gte, lt, lte, like, ilike, regex, iregex, member, is, isDistinct, fullText,
    plainText, phraseText, webText, contains, containedBy, overlaps, leftOf, rightOf, notRightOf,
    notLeftOf, adjacent, not, and, or, all, any, between]

/-- The operator with a token. -/
def ofToken? (s : String) : Option Operator := vocabulary.find? (·.token == s)

/-- The operators that join or negate whole conditions. -/
def isLogical : Operator → Bool
  | not | and | or => true
  | _ => false

/-- The quantifiers over a list of values. -/
def isQuantifier : Operator → Bool
  | all | any => true
  | _ => false

/-- The operators that take a quantifier. -/
def isQuantifiable : Operator → Bool
  | eq | like | ilike | gt | gte | lt | lte | regex | iregex => true
  | _ => false

def isTextSearch : Operator → Bool
  | fullText | plainText | phraseText | webText => true
  | _ => false

/-- The operators of a plain comparison of a column with a value. -/
def isPlain (op : Operator) : Bool := !op.isLogical && !op.isQuantifier && op != between

theorem mem_vocabulary (op : Operator) : op ∈ vocabulary := by cases op <;> decide

theorem ofToken?_token (op : Operator) : ofToken? op.token = some op := by
  cases op <;> decide

theorem token_of_ofToken? {s : String} {op : Operator} (h : ofToken? s = some op) :
    op.token = s := by
  have := List.find?_some h
  simpa using this

theorem token_inj {a b : Operator} (h : a.token = b.token) : a = b := by
  have := ofToken?_token a
  rw [h, ofToken?_token] at this
  exact (Option.some.inj this).symm

end Operator

/-- The HTTP methods of a request. -/
inductive Method where
  | get | head | post | patch | delete
  deriving DecidableEq

namespace Method

def token : Method → String
  | get => "GET" | head => "HEAD" | post => "POST" | patch => "PATCH" | delete => "DELETE"

def ofToken? (s : String) : Option Method := [get, head, post, patch, delete].find? (·.token == s)

/-- The methods that leave the data alone. -/
def isRead : Method → Bool
  | get | head => true
  | _ => false

theorem ofToken?_token (m : Method) : ofToken? m.token = some m := by cases m <;> decide

end Method

/-- How the rows are counted. -/
inductive Count where
  | exact | planned | estimated
  deriving DecidableEq

def Count.token : Count → String
  | exact => "exact" | planned => "planned" | estimated => "estimated"

/-- What a mutation sends back. -/
inductive Returning where
  | representation | minimal | headersOnly
  deriving DecidableEq

def Returning.token : Returning → String
  | representation => "representation" | minimal => "minimal" | headersOnly => "headers-only"

/-- The media types of a response. -/
inductive MediaType where
  | default | csv | json | openapi | geojson | plan | object | array
  deriving DecidableEq

namespace MediaType

def token : MediaType → String
  | default => "*/*"
  | csv => "text/csv"
  | json => "application/json"
  | openapi => "application/openapi+json"
  | geojson => "application/geo+json"
  | plan => "application/vnd.pgrst.plan+json"
  | object => "application/vnd.pgrst.object+json"
  | array => "application/vnd.pgrst.array+json"

/-- The media types by name; one of them has two. -/
def names : List (String × MediaType) :=
  [("DEFAULT", default), ("CSV", csv), ("JSON", json), ("OPENAPI", openapi),
    ("GEOJSON", geojson), ("POSTGIS", geojson), ("PGRST_PLAN", plan), ("PGRST_OBJECT", object),
    ("PGRST_ARRAY", array)]

def name (m : MediaType) : String :=
  match names.find? (·.2 == m) with
  | some (n, _) => n
  | none => ""

/-- The media type with a name, or any type at all. -/
def ofName (s : String) : MediaType := (names.lookup s).getD default

end MediaType

/-- Which side of a call a span stands for. -/
inductive SpanKind where
  | internal | client | server
  deriving DecidableEq

def SpanKind.token : SpanKind → String
  | internal => "internal" | client => "client" | server => "server"

def SpanKind.ofToken? (s : String) : Option SpanKind :=
  [internal, client, server].find? (·.token == s)

/-- A word of one of the vocabularies, as a value. -/
inductive Member where
  | operator (op : Operator)
  | method (m : Method)
  | count (c : Count)
  | returning (r : Returning)
  | mediaType (m : MediaType)
  | spanKind (k : SpanKind)
  deriving DecidableEq

namespace Member

/-- The vocabulary of a word. -/
def family : Member → String
  | operator _ => "Operator"
  | method _ => "Method"
  | count _ => "Count"
  | returning _ => "Returning"
  | mediaType _ => "MediaType"
  | spanKind _ => "SpanKindEnum"

/-- The text of a word on the wire. -/
def token : Member → String
  | operator op => op.token
  | method m => m.token
  | count c => c.token
  | returning r => r.token
  | mediaType m => m.token
  | spanKind k => k.token

/-- The name of a word within its vocabulary: mostly its token in capitals. -/
def name : Member → String
  | mediaType m => m.name
  | m => String.ofList (m.token.toList.map fun c => if c = '-' then '_' else c.toUpper)

/-- All words, those with a second name once. -/
def vocabulary : List Member :=
  Operator.vocabulary.map operator ++
    [Method.get, .head, .post, .patch, .delete].map method ++
    [Count.exact, .planned, .estimated].map count ++
    [Returning.representation, .minimal, .headersOnly].map returning ++
    [MediaType.default, .csv, .json, .openapi, .geojson, .plan, .object, .array].map mediaType ++
    [SpanKind.internal, .client, .server].map spanKind

/-- The word with a name, second names included. -/
def find? (family name : String) : Option Member :=
  if family = "MediaType" then (MediaType.names.lookup name).map mediaType
  else vocabulary.find? fun m => m.family == family && m.name == name

theorem mem_vocabulary (m : Member) : m ∈ vocabulary := by
  cases m with
  | operator op => cases op <;> decide
  | method m => cases m <;> decide
  | count c => cases c <;> decide
  | returning r => cases r <;> decide
  | mediaType m => cases m <;> decide
  | spanKind k => cases k <;> decide

end Member

end RestQuery
