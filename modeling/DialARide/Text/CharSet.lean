/-!
# Sets of characters

Properties of characters that a table defines, as ranges of code points.
-/

namespace DialARide.Text

/-- A set of characters, as ranges of code points in ascending order, both ends included. -/
structure CharSet where
  ranges : Array (Nat × Nat)

/-- Whether a character lies in one of the ranges. -/
def CharSet.contains (set : CharSet) (c : Char) : Bool :=
  set.ranges.any fun (first, last) => first ≤ c.toNat && c.toNat ≤ last

end DialARide.Text
