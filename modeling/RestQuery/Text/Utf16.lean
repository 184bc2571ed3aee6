import RestQuery.Text.Point

/-!
# UTF-16 and UTF-32

Decoding of the two wide forms in either byte order to code points.
-/

namespace RestQuery.Text

inductive ByteOrder where
  | big | little
  deriving DecidableEq

/-- The 16-bit units of the bytes; `none` if a byte is left over. -/
def units16? (order : ByteOrder) : List UInt8 → Option (List Nat)
  | [] => some []
  | [_] => none
  | a :: b :: rest =>
    let unit := match order with
      | .big => a.toNat * 256 + b.toNat
      | .little => b.toNat * 256 + a.toNat
    (units16? order rest).map (unit :: ·)

/-- The code points of 16-bit units. -/
def pointsOfUnits : List Nat → List Point
  | [] => []
  | [u] => [.ofNat u]
  | u :: v :: rest =>
    if isHighSurrogate u && isLowSurrogate v then .ofNat (pairValue u v) :: pointsOfUnits rest
    else .ofNat u :: pointsOfUnits (v :: rest)

def decodeUtf16? (order : ByteOrder) (bs : List UInt8) : Option (List Point) :=
  (units16? order bs).map pointsOfUnits

def decodeUtf32? (order : ByteOrder) : List UInt8 → Option (List Point)
  | [] => some []
  | a :: b :: c :: d :: rest =>
    let n := match order with
      | .big => ((a.toNat * 256 + b.toNat) * 256 + c.toNat) * 256 + d.toNat
      | .little => ((d.toNat * 256 + c.toNat) * 256 + b.toNat) * 256 + a.toNat
    if n < 0x110000 then (decodeUtf32? order rest).map (.ofNat n :: ·) else none
  | _ => none

end RestQuery.Text
