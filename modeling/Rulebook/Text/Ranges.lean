/-!
# Code point ranges

Properties of characters are given by tables of code point ranges, first and last included. The
tables of this folder are those of Unicode 14.
-/

namespace Rulebook.Text

/-- A table of code point ranges, first and last included. -/
abbrev Ranges := List (Nat × Nat)

/-- Is a character in one of the ranges? -/
def Ranges.holds (table : Ranges) (c : Char) : Bool :=
  table.any fun r => decide (r.1 ≤ c.toNat) && decide (c.toNat ≤ r.2)

end Rulebook.Text
