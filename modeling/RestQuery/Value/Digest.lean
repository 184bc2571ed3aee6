import RestQuery.Text.Hex
import RestQuery.Value.Basic

/-!
# Digests

What a table looks at before it compares two keys: a key finds an entry only if their digests
agree and they are equal. Equal numbers have one digest whatever their kinds. A time of day is
digested with its offset in full, although only whole seconds of it count in a comparison, so that
equal times need not find each other.
-/

namespace RestQuery

open Number Text

inductive Digest where
  /-- Agrees with no digest, not even with itself. -/
  | unique
  | nothing
  | number (n : Int)
  | bytes (bs : List UInt8)
  | tuple (items : List Digest)

namespace Digest

mutual

/-- Two digests agree. -/
def same : Digest → Digest → Bool
  | nothing, nothing => true
  | number a, number b => a == b
  | bytes a, bytes b => a == b
  | tuple a, tuple b => allSame a b
  | _, _ => false
termination_by structural a => a

def allSame : List Digest → List Digest → Bool
  | [], [] => true
  | a :: as, b :: bs => a.same b && allSame as bs
  | _, _ => false
termination_by structural a => a

end

/-! ### Numbers -/

/-- Numbers are digested to their remainders by this prime. -/
def modulus : Nat := Nat.pow 2 61 - 1

/-- The remainder of a power. -/
def powMod (b e : Nat) : Nat :=
  if e = 0 then 1
  else
    let root := powMod (b * b % modulus) (e / 2)
    if e % 2 = 1 then root * b % modulus else root
termination_by e

/-- The remainder by which a division by ten multiplies. -/
def tenth : Nat := powMod 10 (modulus - 2)

/-- The digest of a remainder with a sign; minus one is set aside. -/
def ofRemainder (negative : Bool) (n : Nat) : Digest :=
  if negative ∧ n = 1 then number (-2) else number (signed negative n)

def ofScaled (d : Scaled) : Digest :=
  let scale := if 0 ≤ d.exponent then powMod 10 d.exponent.toNat
    else powMod tenth (-d.exponent).toNat
  ofRemainder d.negative (d.coefficient * scale % modulus)

def ofInt (n : Int) : Digest := ofRemainder (n < 0) (n.natAbs % modulus)

def ofQuantity : Quantity → Digest
  | .finite d => ofScaled d
  | .infinite negative => number (signed negative 314159)
  | .nan => unique

/-! ### Bytes and texts -/

def ofBytes (bs : List UInt8) : Digest := if bs.isEmpty then number 0 else bytes bs

/-- The `width` bytes of a number, the lowest first. -/
def lowFirst : Nat → Nat → List UInt8
  | 0, _ => []
  | width + 1, n => n.toUInt8 :: lowFirst width (n / 256)

/-- The bytes of code points, as many for each as the highest one takes. -/
def ofCodes (codes : List Nat) : Digest :=
  let width := if codes.all (· < 0x100) then 1 else if codes.all (· < 0x10000) then 2 else 4
  ofBytes (codes.flatMap (lowFirst width))

def ofText (s : String) : Digest := ofCodes (s.toList.map Char.toNat)

def ofPoints (ps : List Point) : Digest := ofCodes (ps.map Point.value)

theorem same_ofBytes (bs : List UInt8) : (ofBytes bs).same (ofBytes bs) = true := by
  unfold ofBytes
  split <;> simp [same]

/-- The digest of a text agrees with itself. -/
theorem same_ofText (s : String) : (ofText s).same (ofText s) = true := same_ofBytes _

/-! ### Dates and times -/

/-- The `width` bytes of a number, the highest first. -/
def highFirst (width n : Nat) : List UInt8 := (lowFirst width n).reverse

def dateBytes (d : Date) : List UInt8 := highFirst 2 d.year ++ highFirst 1 d.month ++ highFirst 1 d.day

def clockBytes (t : Clock) : List UInt8 :=
  highFirst 1 t.hour ++ highFirst 1 t.minute ++ highFirst 1 t.second ++ highFirst 3 t.micro

/-- The digest of a length of time: its days, seconds and microseconds. -/
def ofMicros (micros : Int) : Digest :=
  let rest := micros.fmod 86400000000
  tuple [ofInt (micros.fdiv 86400000000), ofInt (rest / 1000000), ofInt (rest % 1000000)]

def ofClock (t : Clock) : Digest :=
  match t.offset with
  | none => ofBytes (clockBytes t)
  | some offset => ofMicros (t.micros - offset)

def ofMoment (m : Moment) : Digest :=
  match m.clock.offset with
  | none => ofBytes (dateBytes m.date ++ clockBytes m.clock)
  | some offset => ofMicros (m.micros - offset)

/-! ### Words -/

def ofMember (m : Member) : Digest := ofText m.name

def ofOperator (op : Operator) : Digest := ofMember (.operator op)

/-- The digest of an identifier is that of its number. -/
def ofUuid (s : String) : Digest :=
  ofInt (s.toList.foldl (fun n c => match hexValue? c with
    | some d => n * 16 + d
    | none => n) 0 : Nat)

end Digest

mutual

/-- The digest of a value that can be a key. -/
def Value.digest : Value → Digest
  | .null => .nothing
  | .bool b => .number (if b then 1 else 0)
  | .int n => .ofInt n
  | .float x => .ofQuantity (Double.ofFloat x).quantity
  | .text s => .ofText s
  | .unpaired ps => .ofPoints ps
  | .bytes bs => .ofBytes bs
  | .tuple xs => .tuple (Value.digests xs)
  | .uuid s => .ofUuid s
  | .decimal s => .ofQuantity (decimalQuantity s)
  | .date d => .ofBytes (Digest.dateBytes d)
  | .moment m => .ofMoment m
  | .clock t => .ofClock t
  | .member m => .ofMember m
  | .condition c => c.digest
  | .list _ | .set _ | .map _ | .record _ => .unique

def Value.digests : List Value → List Digest
  | [] => []
  | x :: xs => x.digest :: Value.digests xs

/-- The digest of a condition is that of the tuple of its parts. -/
def Condition.digest : Condition → Digest
  | .comparison op column v => .tuple [.ofOperator op, .ofText column, v.digest]
  | .quantified op column vs q =>
    .tuple [.ofOperator op, .ofText column, .tuple (Value.digests vs), .ofOperator q]
  | .textSearch op column query language =>
    .tuple [.ofOperator op, .ofText column, query.digest, language.digest]
  | .between column low high => .tuple [.ofText column, low.digest, high.digest]
  | .not c => .tuple [c.digest]
  | .and cs | .or cs => .tuple [.tuple (Condition.digests cs)]
  | .raw v => .tuple [v.digest]

def Condition.digests : List Condition → List Digest
  | [] => []
  | c :: cs => c.digest :: Condition.digests cs

end

end RestQuery
