import RestQuery.Calendar
import RestQuery.Number.Decimal
import RestQuery.Text.Point
import RestQuery.Vocabulary

/-!
# Values and conditions

The values that callers pass for columns, operands, payloads and options, and the filter
conditions, which are values themselves and hold values. Both are plain trees; the constructors
that check their parts are in `RestQuery.Condition.Coercion`. The texts of a builder are Unicode
texts. One that holds half of a surrogate pair only comes out of a JSON document and has no form in
UTF-8, so it names nothing and is no text to a builder.
-/

namespace RestQuery

mutual

/-- A dynamically typed value. Maps and records keep the order of their entries. -/
inductive Value where
  | null
  | bool (b : Bool)
  | int (n : Int)
  | float (x : Float)
  | text (s : String)
  /-- A text that holds half of a surrogate pair, from a JSON document. -/
  | unpaired (points : List Text.Point)
  | bytes (bs : List UInt8)
  | list (items : List Value)
  | tuple (items : List Value)
  | set (items : List Value)
  | map (entries : List (Value × Value))
  | uuid (s : String)
  | decimal (s : String)
  | date (d : Date)
  | moment (m : Moment)
  | clock (t : Clock)
  | member (m : Member)
  | record (fields : List (String × Value))
  | condition (c : Condition)

/-- A filter condition. -/
inductive Condition where
  /-- A column compared with a value. -/
  | comparison (op : Operator) (column : String) (value : Value)
  /-- A column compared with all or any of some values. -/
  | quantified (op : Operator) (column : String) (values : List Value) (quantifier : Operator)
  /-- A full-text search, in a language unless that is empty. -/
  | textSearch (op : Operator) (column : String) (query language : Value)
  /-- A column between two bounds, both included. -/
  | between (column : String) (low high : Value)
  | not (c : Condition)
  | and (cs : List Condition)
  | or (cs : List Condition)
  /-- A condition already encoded by the caller. -/
  | raw (encoded : Value)

end

instance : Inhabited Value := ⟨.null⟩

namespace Condition

/-- The name of the shape of a condition. -/
def shape : Condition → String
  | comparison .. => "Comparison"
  | quantified .. => "ArrayModifier"
  | textSearch .. => "TextSearch"
  | between .. => "Between"
  | not _ => "Not"
  | and _ => "And"
  | or _ => "Or"
  | raw _ => "Raw"

end Condition

namespace Value

/-- The name of the kind of a value, as messages give it. -/
def kindName : Value → String
  | null => "NoneType"
  | bool _ => "bool"
  | int _ => "int"
  | float _ => "float"
  | text _ | unpaired _ => "str"
  | bytes _ => "bytes"
  | list _ => "list"
  | tuple _ => "tuple"
  | set _ => "set"
  | map _ => "dict"
  | uuid _ => "UUID"
  | decimal _ => "Decimal"
  | date _ => "date"
  | moment _ => "datetime"
  | clock _ => "time"
  | member m => m.family
  | record _ => "Row"
  | condition c => c.shape

/-- Nothing, zero and whatever is empty count as false. -/
def truth : Value → Bool
  | null => false
  | bool b => b
  | int n => n != 0
  | float x => x != 0
  | text s => s != ""
  | bytes bs => !bs.isEmpty
  | list xs | tuple xs | set xs => !xs.isEmpty
  | map es => !es.isEmpty
  | decimal s => Number.decimalQuantity s != .finite ⟨false, 0, 0⟩
  | _ => true

/-- The text of some code points. -/
def ofPoints (ps : List Text.Point) : Value :=
  match Text.Point.chars? ps with
  | some cs => text (String.ofList cs)
  | none => unpaired ps

theorem ofPoints_map_char (cs : List Char) :
    ofPoints (cs.map .char) = text (String.ofList cs) := by
  simp [ofPoints, Text.Point.chars?_map_char]

/-- A text that holds half of a surrogate pair. -/
def isUnpaired : Value → Bool
  | unpaired _ => true
  | _ => false

/-- The text of a value that is one. -/
def text? : Value → Option String
  | text s => some s
  | _ => none

/-- The items of a list or a tuple. -/
def listItems? : Value → Option (List Value)
  | list xs | tuple xs => some xs
  | _ => none

/-- The items of an ordered sequence: lists, tuples, characters of a text and bytes. -/
def sequenceItems? : Value → Option (List Value)
  | list xs | tuple xs => some xs
  | text s => some (s.toList.map fun c => text (String.singleton c))
  | bytes bs => some (bs.map fun b => int b.toNat)
  | _ => none

/-- The items that a value yields when it is gone through. -/
def items? : Value → Option (List Value)
  | list xs | tuple xs | set xs => some xs
  | text s => some (s.toList.map fun c => text (String.singleton c))
  | unpaired ps => some (ps.map fun p => ofPoints [p])
  | bytes bs => some (bs.map fun b => int b.toNat)
  | map es => some (es.map (·.1))
  | record fs => some (fs.map fun f => tuple [text f.1, f.2])
  | _ => none

def isMap : Value → Bool
  | map _ => true
  | _ => false

/-- A record with a field of some name. -/
def hasField (name : String) : Value → Bool
  | record fs => fs.any (·.1 == name)
  | _ => false

/-- Named parts with one of them set: an equal name keeps its place. -/
def setNamed {α : Type} (name : String) (part : α) : List (String × α) → List (String × α)
  | [] => [(name, part)]
  | (n, p) :: ps => if n = name then (n, part) :: ps else (n, p) :: setNamed name part ps

/-- Named parts without repeated names: each name has its first place and its last part. -/
def uniqueNames {α : Type} (parts : List (String × α)) : List (String × α) :=
  parts.foldl (fun ps p => setNamed p.1 p.2 ps) []

/-- The record of some fields. -/
def ofFields (fields : List (String × Value)) : Value := record (uniqueNames fields)

/-- Maps and records describe one row. -/
def isRow : Value → Bool
  | map _ | record _ => true
  | _ => false

end Value

mutual

/-- A value that can be a key of a map. -/
def Value.isKey : Value → Bool
  | .list _ | .set _ | .map _ | .record _ => false
  | .decimal s => !Number.isSignaling s
  | .tuple xs => Value.allKeys xs
  | .condition c => c.isKey
  | _ => true

def Value.allKeys : List Value → Bool
  | [] => true
  | x :: xs => x.isKey && Value.allKeys xs

def Condition.isKey : Condition → Bool
  | .comparison _ _ v => v.isKey
  | .quantified _ _ vs _ => Value.allKeys vs
  | .textSearch _ _ q l => q.isKey && l.isKey
  | .between _ low high => low.isKey && high.isKey
  | .not c => c.isKey
  | .and cs | .or cs => Condition.allKeys cs
  | .raw v => v.isKey

def Condition.allKeys : List Condition → Bool
  | [] => true
  | c :: cs => c.isKey && Condition.allKeys cs

end

end RestQuery
