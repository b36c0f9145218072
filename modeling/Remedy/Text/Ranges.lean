/-!
# Ranges of code points

A property of characters is given by closed ranges of code points that ascend, with gaps between
them.
-/

namespace Remedy.Text

abbrev Ranges : Type := List (Nat × Nat)

namespace Ranges

/-- Whether a character is in one of the ranges. -/
def holds (rs : Ranges) (c : Char) : Bool := rs.any fun r => r.1 ≤ c.toNat && c.toNat ≤ r.2

end Ranges

end Remedy.Text
