import RestQuery.Fault
import RestQuery.Json.Document

/-!
# Reading JSON

A reader for JSON that also takes `NaN` and the infinities, keeps whole numbers exact and apart
from fractions, and gives a repeated member its last value at its first place.
-/

namespace RestQuery.Json

open Text

def malformed {α : Type} : Outcome α := .error .malformedJson

/-- The white space of JSON. -/
def isSpace (c : Char) : Bool := c = ' ' || c = '\t' || c = '\n' || c = '\r'

def skipSpace (s : List Point) : List Point := s.dropWhile (·.holds isSpace)

/-! ### Texts -/

/-- The number of four hexadecimal digits. -/
def hex4? : List Point → Option (Nat × List Point)
  | .char a :: .char b :: .char c :: .char d :: s => do
    let n := (((← hexValue? a) * 16 + (← hexValue? b)) * 16 + (← hexValue? c)) * 16
    return (n + (← hexValue? d), s)
  | _ => none

/-- The character that a one-letter escape stands for. -/
def shortEscape? (c : Char) : Option Char :=
  if c = '"' then some '"'
  else if c = '\\' then some '\\'
  else if c = '/' then some '/'
  else if c = 'b' then some (Char.ofNat 8)
  else if c = 'f' then some (Char.ofNat 12)
  else if c = 'n' then some '\n'
  else if c = 'r' then some '\r'
  else if c = 't' then some '\t'
  else none

/-- The second half of a surrogate pair, if the input goes on with one. -/
def lowSurrogate? : List Point → Option (Nat × List Point)
  | .char '\\' :: .char 'u' :: s => do
    let (n, s) ← hex4? s
    if isLowSurrogate n then some (n, s) else none
  | _ => none

/-- One code point inside a text, after a backslash. Two escaped halves of a pair are one. -/
def escaped? : List Point → Option (Point × List Point)
  | .char c :: s =>
    if c = 'u' then do
      let (n, s) ← hex4? s
      match lowSurrogate? s with
      | some (low, rest) =>
        if isHighSurrogate n then return (.ofNat (pairValue n low), rest) else return (.ofNat n, s)
      | none => return (.ofNat n, s)
    else (shortEscape? c).map fun d => (.char d, s)
  | _ => none

/-- The points of a text after its opening quote; `fuel` bounds their number. -/
def stringBody : Nat → List Point → Outcome (List Point × List Point)
  | 0, _ => malformed
  | _ + 1, [] => malformed
  | fuel + 1, p :: s =>
    if p = .char '"' then .ok ([], s)
    else if p = .char '\\' then
      match escaped? s with
      | some (q, s) => do
        let (ps, s) ← stringBody fuel s
        return (q :: ps, s)
      | none => malformed
    else if p.value < 32 then malformed
    else do
      let (ps, s) ← stringBody fuel s
      return (p :: ps, s)

/-- A text after its opening quote. -/
def readString (fuel : Nat) (s : List Point) : Outcome (Value × List Point) := do
  let (ps, rest) ← stringBody fuel s
  return (.ofPoints ps, rest)

/-! ### Numbers -/

def isAsciiDigit (c : Char) : Bool := '0' ≤ c && c ≤ '9'

/-- The digits before the point: a single zero, or digits that do not start with one. -/
def wholePart : List Char → List Char × List Char
  | '0' :: s => (['0'], s)
  | s => (s.takeWhile isAsciiDigit, s.dropWhile isAsciiDigit)

/-- The digits after a point, if a point and a digit follow. -/
def fractionPart (s : List Char) : List Char × List Char :=
  match s with
  | '.' :: rest =>
    let digits := rest.takeWhile isAsciiDigit
    if digits.isEmpty then ([], s) else (digits, rest.dropWhile isAsciiDigit)
  | _ => ([], s)

/-- A signed exponent, if a complete one follows. -/
def exponentPart (s : List Char) : Option Int × List Char :=
  match s with
  | e :: rest =>
    if e = 'e' ∨ e = 'E' then
      let (negative, rest) := Number.takeSign rest
      let digits := rest.takeWhile isAsciiDigit
      if digits.isEmpty then (none, s)
      else (some (Number.signed negative (Number.digitsValue digits)),
        rest.dropWhile isAsciiDigit)
    else (none, s)
  | [] => (none, s)

/-- A number without its sign. -/
def readNumber (negative : Bool) (s : List Char) : Outcome (Value × List Char) :=
  let (whole, s) := wholePart s
  if whole.isEmpty then malformed
  else
    let (fraction, s) := fractionPart s
    let (exponent, s) := exponentPart s
    if fraction.isEmpty ∧ exponent.isNone then
      if whole.length ≤ Number.digitLimit then
        .ok (.int (Number.signed negative (Number.digitsValue whole)), s)
      else .error (.tooManyDigits whole.length)
    else
      let digits := whole ++ fraction
      .ok (.float (Number.floatOfDecimal negative (Number.digitsValue digits)
        (exponent.getD 0 - fraction.length)), s)

/-! ### Values -/

/-- `s` without `word` at its front. -/
def skipWord? (word : String) (s : List Char) : Option (List Char) :=
  if word.toList.isPrefixOf s then some (s.drop word.length) else none

/-- The words that are values. -/
def words : List (String × Value) :=
  [("null", .null), ("true", .bool true), ("false", .bool false),
    ("NaN", .float (Float.ofBits 0x7FF8000000000000)),
    ("Infinity", .float (Float.ofBits 0x7FF0000000000000)),
    ("-Infinity", .float (Float.ofBits 0xFFF0000000000000))]

/-- A word or a number. -/
def atom (s : List Char) : Outcome (Value × List Char) :=
  match words.findSome? fun w => (skipWord? w.1 s).map (w.2, ·) with
  | some found => .ok found
  | none =>
    match s with
    | '-' :: rest => readNumber true rest
    | _ => readNumber false s

/-- A character that words and numbers are made of. -/
def isAtomic (c : Char) : Bool := c.isAlphanum || c = '+' || c = '-' || c = '.'

/-- A value that is neither a text nor a container: all the characters that such values are made
of, up to the next other one. -/
def readAtom (s : List Point) : Outcome (Value × List Point) := do
  let (v, left) ← atom ((s.takeWhile (·.holds isAtomic)).filterMap Point.char?)
  if left.isEmpty then return (v, s.dropWhile (·.holds isAtomic)) else malformed

mutual

/-- A value at the front of the input; `fuel` bounds the number of steps. -/
def readValue : Nat → List Point → Outcome (Value × List Point)
  | 0, _ => malformed
  | fuel + 1, s =>
    match s with
    | .char '"' :: s => readString fuel s
    | .char '[' :: s =>
      match skipSpace s with
      | .char ']' :: s => .ok (.list [], s)
      | s => do
        let (items, s) ← readItems fuel s
        return (.list items, s)
    | .char '{' :: s =>
      match skipSpace s with
      | .char '}' :: s => .ok (.map [], s)
      | s => do
        let (members, s) ← readMembers fuel s
        return (.map (Value.mapOf members), s)
    | s => readAtom s

/-- One or more items and the closing bracket. -/
def readItems : Nat → List Point → Outcome (List Value × List Point)
  | 0, _ => malformed
  | fuel + 1, s => do
    let (v, s) ← readValue fuel s
    match skipSpace s with
    | .char ']' :: s => return ([v], s)
    | .char ',' :: s =>
      let (vs, s) ← readItems fuel (skipSpace s)
      return (v :: vs, s)
    | _ => malformed

/-- One or more members and the closing brace. -/
def readMembers : Nat → List Point → Outcome (List (Value × Value) × List Point)
  | 0, _ => malformed
  | fuel + 1, s => do
    match s with
    | .char '"' :: s =>
      let (name, s) ← readString fuel s
      match skipSpace s with
      | .char ':' :: s =>
        let (v, s) ← readValue fuel (skipSpace s)
        match skipSpace s with
        | .char '}' :: s => return ([(name, v)], s)
        | .char ',' :: s =>
          let (ms, s) ← readMembers fuel (skipSpace s)
          return ((name, v) :: ms, s)
        | _ => malformed
      | _ => malformed
    | _ => malformed

end

/-- The value that a document holds, with nothing but white space around it. -/
def parsePoints (s : List Point) : Outcome Value := do
  let (v, rest) ← readValue (2 * s.length + 2) (skipSpace s)
  if (skipSpace rest).isEmpty then return v else malformed

/-- The value of a document without a byte order mark. -/
def parseUnmarked : List Point → Outcome Value
  | .char '\uFEFF' :: _ => malformed
  | ps => parsePoints ps

/-- The value of a document given as text. -/
def parseText (s : String) : Outcome Value := parseUnmarked (Point.ofText s)

/-- The value of a document given as bytes in any of its forms. -/
def parseBytes (bs : List UInt8) : Outcome Value :=
  match decodeDocument? bs with
  | some ps => parsePoints ps
  | none => .error (.malformedText "")

/-- The value of a document. -/
def parse : Value → Outcome Value
  | .text s => parseText s
  | .unpaired ps => parseUnmarked ps
  | .bytes bs => parseBytes bs
  | _ => .error (.wrongKind "a JSON document is a text or bytes")

end RestQuery.Json
