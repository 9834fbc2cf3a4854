-- Classes of characters given by their boundaries: the code points at which membership
-- changes, in ascending order. A character is in the class when an odd number of boundaries
-- stand at or below it.

namespace CrossBuild.Text

/-- A class of characters, as the ascending code points at which membership changes. -/
structure CharClass where
  bounds : Array Nat

namespace CharClass

/-- The number of boundaries at or below a code point. -/
def rank (k : CharClass) (n : Nat) : Nat :=
  k.bounds.foldl (fun count bound => if bound ≤ n then count + 1 else count) 0

def contains (k : CharClass) (c : Char) : Bool :=
  k.rank c.toNat % 2 == 1

end CharClass

end CrossBuild.Text
