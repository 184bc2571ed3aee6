/-!
# Character classes by range

A class of characters is given by the ranges of code points that make it up.
-/

namespace RestQuery.Text

/-- Membership in a union of ranges, both ends of each included. -/
def inRanges (rs : List (Nat × Nat)) (c : Char) : Bool :=
  rs.any fun (first, last) => first ≤ c.toNat && c.toNat ≤ last

end RestQuery.Text
