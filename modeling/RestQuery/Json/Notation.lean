import RestQuery.Number.FloatText
import RestQuery.Text.Hex
import RestQuery.Text.Point

/-!
# The notation of JSON

Texts, numbers, arrays and objects in compact ASCII JSON, from parts that have been written
already.
-/

namespace RestQuery.Json

open Text

def jsonSpelling : Number.Spelling := ⟨"NaN", "Infinity"⟩

/-- The escape of a code point below U+10000. -/
def escapeUnit (n : Nat) : List Char := '\\' :: 'u' :: hex 4 n

def escapeChar (c : Char) : List Char :=
  if c = '"' then ['\\', '"']
  else if c = '\\' then ['\\', '\\']
  else if c = '\n' then ['\\', 'n']
  else if c = '\r' then ['\\', 'r']
  else if c = '\t' then ['\\', 't']
  else if c.toNat = 8 then ['\\', 'b']
  else if c.toNat = 12 then ['\\', 'f']
  else if 32 ≤ c.toNat ∧ c.toNat < 127 then [c]
  else if c.toNat < 0x10000 then escapeUnit c.toNat
  else
    let n := c.toNat - 0x10000
    escapeUnit (0xD800 + n / 1024) ++ escapeUnit (0xDC00 + n % 1024)

def escapePoint : Point → List Char
  | .char c => escapeChar c
  | .half n => escapeUnit (Point.half n).value

def stringChars (s : List Char) : List Char := '"' :: s.flatMap escapeChar ++ ['"']

/-- A text between double quotes. -/
def string (s : String) : String := String.ofList (stringChars s.toList)

/-- A text that may hold halves of surrogate pairs, between double quotes. -/
def points (ps : List Point) : String := String.ofList ('"' :: ps.flatMap escapePoint ++ ['"'])

def bool (b : Bool) : String := if b then "true" else "false"

def float (x : Float) : String := Number.floatText jsonSpelling x

def array (items : List String) : String := "[" ++ commaJoin items ++ "]"

/-- An object from its members, the names of which have been written as well. -/
def braces (members : List (String × String)) : String :=
  "\x7b" ++ commaJoin (members.map fun m => m.1 ++ ":" ++ m.2) ++ "\x7d"

/-- An object from its members by name. -/
def object (members : List (String × String)) : String :=
  braces (members.map fun m => (string m.1, m.2))

theorem points_map_char (cs : List Char) : points (cs.map .char) = string (String.ofList cs) := by
  simp [points, string, stringChars, List.flatMap_map, escapePoint]

end RestQuery.Json
