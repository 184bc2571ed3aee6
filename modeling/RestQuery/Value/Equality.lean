import RestQuery.Value.Digest

/-!
# Equality of values

Numbers are equal when they are the same number, whatever their kinds; a list is never equal to a
tuple; maps and records are compared without regard to order. A NaN equals nothing. Where a key is
looked up, its digest has to agree as well.
-/

namespace RestQuery

open Number

/-- The number that a value is. -/
def Value.quantity? : Value → Option Quantity
  | .bool b => some (.finite (.ofInt (if b then 1 else 0)))
  | .int n => some (.finite (.ofInt n))
  | .float x => some (Double.ofFloat x).quantity
  | .decimal s => some (decimalQuantity s)
  | _ => none

mutual

def Value.same : Value → Value → Bool
  | .null, .null => true
  | .text a, .text b => a == b
  | .unpaired a, .unpaired b => a == b
  | .bytes a, .bytes b => a == b
  | .list a, .list b => Value.allSame a b
  | .tuple a, .tuple b => Value.allSame a b
  | .set a, .set b => a.length == b.length && Value.allIn a b
  | .map a, .map b => a.length == b.length && Value.entriesIn a b
  | .uuid a, .uuid b => a == b
  | .date a, .date b => a == b
  | .moment a, .moment b => a.same b
  | .clock a, .clock b => a.same b
  | .member a, .member b => a == b
  | .record a, .record b => a.length == b.length && Value.fieldsIn a b
  | .condition a, .condition b => a.same b
  | a, b =>
    match a.quantity?, b.quantity? with
    | some x, some y => x.same y
    | _, _ => false
termination_by structural a => a

def Value.allSame : List Value → List Value → Bool
  | [], [] => true
  | a :: as, b :: bs => a.same b && Value.allSame as bs
  | _, _ => false
termination_by structural a => a

/-- Every item of the first set is found in the second. -/
def Value.allIn : List Value → List Value → Bool
  | [], _ => true
  | a :: as, bs => bs.any (fun b => a.same b && a.digest.same b.digest) && Value.allIn as bs
termination_by structural a => a

/-- Every key of the first map is found in the second, where its value is equal. -/
def Value.entriesIn : List (Value × Value) → List (Value × Value) → Bool
  | [], _ => true
  | (k, v) :: as, bs =>
    bs.any (fun e => k.same e.1 && k.digest.same e.1.digest && v.same e.2) &&
      Value.entriesIn as bs
termination_by structural a => a

def Value.fieldsIn : List (String × Value) → List (String × Value) → Bool
  | [], _ => true
  | (k, v) :: as, bs => bs.any (fun f => k == f.1 && v.same f.2) && Value.fieldsIn as bs
termination_by structural a => a

/-- Conditions are equal when they have the same shape and equal parts. -/
def Condition.same : Condition → Condition → Bool
  | .comparison o c v, .comparison o' c' v' => o == o' && c == c' && v.same v'
  | .quantified o c vs q, .quantified o' c' vs' q' =>
    o == o' && c == c' && Value.allSame vs vs' && q == q'
  | .textSearch o c v l, .textSearch o' c' v' l' => o == o' && c == c' && v.same v' && l.same l'
  | .between c a b, .between c' a' b' => c == c' && a.same a' && b.same b'
  | .not c, .not c' => c.same c'
  | .and cs, .and cs' => Condition.allSame cs cs'
  | .or cs, .or cs' => Condition.allSame cs cs'
  | .raw v, .raw v' => v.same v'
  | _, _ => false
termination_by structural a => a

def Condition.allSame : List Condition → List Condition → Bool
  | [], [] => true
  | a :: as, b :: bs => a.same b && Condition.allSame as bs
  | _, _ => false
termination_by structural a => a

end

/-- A key finds another one. -/
def Value.finds (a b : Value) : Bool := a.same b && a.digest.same b.digest

theorem Value.finds_text (a b : String) : (text a).finds (text b) = (a == b) := by
  by_cases h : a = b
  · subst h
    simp [finds, same, digest, Digest.same_ofText]
  · simp [finds, same, h]

/-- The entries with `k` set to `v`: a key that is found keeps its place and takes the new value. -/
def Value.insertEntry (k v : Value) : List (Value × Value) → List (Value × Value)
  | [] => [(k, v)]
  | (k', v') :: es => if k'.finds k then (k', v) :: es else (k', v') :: insertEntry k v es

/-- The map of some entries. -/
def Value.mapOf (entries : List (Value × Value)) : List (Value × Value) :=
  entries.foldl (fun es e => Value.insertEntry e.1 e.2 es) []

/-- The value at a text key. -/
def Value.lookup (key : String) : List (Value × Value) → Option Value
  | [] => none
  | (.text k, v) :: es => if k = key then some v else lookup key es
  | _ :: es => lookup key es

/-- A set without repeated items. -/
def Value.setOf (items : List Value) : List Value :=
  items.foldl (fun xs x => if xs.any (·.finds x) then xs else xs ++ [x]) []

end RestQuery
