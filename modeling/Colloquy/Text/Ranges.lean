/-!
# Classes of characters

A property of characters is a list of inclusive ranges of code points, in ascending order.
-/

namespace Colloquy.Text

/-- The inclusive ranges of code points that make up a class of characters. -/
abbrev Ranges := List (Nat × Nat)

/-- Whether a character lies in one of the ranges. -/
def Ranges.contains (ranges : Ranges) (c : Char) : Bool :=
  ranges.any fun r => r.1 ≤ c.toNat && c.toNat ≤ r.2

end Colloquy.Text
