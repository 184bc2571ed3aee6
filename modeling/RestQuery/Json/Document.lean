import RestQuery.Text.Utf16
import RestQuery.Text.Utf8

/-!
# JSON documents as bytes

The choice of form for a JSON document, which has no header to name it, and its decoding. The bytes
may hold surrogates that stand alone.
-/

namespace RestQuery.Json

open Text

/-- The forms a JSON document comes in. -/
inductive Encoding where
  | utf8 | utf16 (order : ByteOrder) | utf32 (order : ByteOrder)
  deriving DecidableEq

namespace Encoding

/-- The form of a document without a byte order mark, told by the zeros among its first bytes:
the first two characters of a document are ASCII. -/
def ofZeros (bs : List UInt8) : Encoding :=
  match bs with
  | a :: b :: c :: d :: _ =>
    if a = 0 then if b = 0 then .utf32 .big else .utf16 .big
    else if b = 0 then if c = 0 ∧ d = 0 then .utf32 .little else .utf16 .little
    else .utf8
  | [a, b] =>
    if a = 0 then .utf16 .big
    else if b = 0 then .utf16 .little
    else .utf8
  | _ => .utf8

/-- The form of a document and what follows its byte order mark. -/
def detect : List UInt8 → Encoding × List UInt8
  | 0x00 :: 0x00 :: 0xFE :: 0xFF :: rest => (.utf32 .big, rest)
  | 0xFF :: 0xFE :: 0x00 :: 0x00 :: rest => (.utf32 .little, rest)
  | 0xFE :: 0xFF :: rest => (.utf16 .big, rest)
  | 0xFF :: 0xFE :: rest => (.utf16 .little, rest)
  | 0xEF :: 0xBB :: 0xBF :: rest => (.utf8, rest)
  | bs => (ofZeros bs, bs)

end Encoding

/-! ### Code points -/

/-- The surrogate that three bytes stand for. -/
def surrogate? (a b c : UInt8) : Option Point :=
  if a = 0xED ∧ 0xA0 ≤ b ∧ b ≤ 0xBF ∧ 0x80 ≤ c ∧ c ≤ 0xBF then
    some (.ofNat (0xD000 + (b.toNat - 0x80) * 64 + (c.toNat - 0x80)))
  else none

/-- The code points of bytes without surrogates. -/
def plainPoints? (bs : List UInt8) : Option (List Point) := (Utf8.decode? bs).map Point.ofText

/-- The code points of bytes with surrogates of three bytes each; `before` holds the bytes since
the last one, in reverse. -/
def pointsFrom? (before : List UInt8) : List UInt8 → Option (List Point)
  | a :: b :: c :: rest =>
    match surrogate? a b c with
    | some p => do return (← plainPoints? before.reverse) ++ p :: (← pointsFrom? [] rest)
    | none => pointsFrom? (a :: before) (b :: c :: rest)
  | rest => plainPoints? (before.reverse ++ rest)

/-- The code points of a document in a known form. -/
def Encoding.decode? (e : Encoding) (bs : List UInt8) : Option (List Point) :=
  match e with
  | .utf8 => pointsFrom? [] bs
  | .utf16 order => decodeUtf16? order bs
  | .utf32 order => decodeUtf32? order bs

/-- The code points of a JSON document. -/
def decodeDocument? (bs : List UInt8) : Option (List Point) :=
  let (encoding, rest) := Encoding.detect bs
  encoding.decode? rest

example : decodeDocument? [0x22, 0xED, 0xA0, 0x80, 0x22] = some [.char '"', .half 0, .char '"'] := by
  decide

end RestQuery.Json
