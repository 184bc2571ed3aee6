import RestQuery.Text.Hex
import RestQuery.Text.Point
import RestQuery.Text.Printable

/-!
# Quoted text

Text and bytes as messages show them: between apostrophes, or between double quotes if that
avoids escaping an apostrophe, with backslash escapes for everything that does not print.
-/

namespace RestQuery.Text

/-- The quote put around a text that holds apostrophes, double quotes, or both. -/
def chooseQuote (hasApostrophe hasDouble : Bool) : Char :=
  if hasApostrophe && !hasDouble then '"' else '\''

/-- The escapes common to text and bytes; the others depend on the width of the unit. -/
def shortEscape? (quote c : Char) : Option (List Char) :=
  if c = '\\' then some ['\\', '\\']
  else if c = quote then some ['\\', quote]
  else if c = '\n' then some ['\\', 'n']
  else if c = '\r' then some ['\\', 'r']
  else if c = '\t' then some ['\\', 't']
  else none

def quoteChar (quote c : Char) : List Char :=
  match shortEscape? quote c with
  | some e => e
  | none =>
    if isPrintable c then [c]
    else if c.toNat < 0x100 then '\\' :: 'x' :: hex 2 c.toNat
    else if c.toNat < 0x10000 then '\\' :: 'u' :: hex 4 c.toNat
    else '\\' :: 'U' :: hex 8 c.toNat

def quoteByte (quote : Char) (b : UInt8) : List Char :=
  let c := Char.ofNat b.toNat
  match shortEscape? quote c with
  | some e => e
  | none => if 32 ≤ b.toNat ∧ b.toNat < 127 then [c] else '\\' :: 'x' :: hex 2 b.toNat

def quotePoint (quote : Char) : Point → List Char
  | .char c => quoteChar quote c
  | .half n => '\\' :: 'u' :: hex 4 (Point.half n).value

def quotedChars (s : List Char) : List Char :=
  let quote := chooseQuote (s.contains '\'') (s.contains '"')
  quote :: s.flatMap (quoteChar quote) ++ [quote]

/-- A text between quotes. -/
def quoted (s : String) : String := String.ofList (quotedChars s.toList)

/-- A text that may hold halves of surrogate pairs, between quotes. -/
def quotedPoints (ps : List Point) : String :=
  let quote := chooseQuote (ps.contains (.char '\'')) (ps.contains (.char '"'))
  String.ofList (quote :: ps.flatMap (quotePoint quote) ++ [quote])

/-- Bytes between quotes, marked by a `b`. -/
def quotedBytes (bs : List UInt8) : String :=
  let quote := chooseQuote (bs.contains 39) (bs.contains 34)
  String.ofList ('b' :: quote :: bs.flatMap (quoteByte quote) ++ [quote])

end RestQuery.Text
