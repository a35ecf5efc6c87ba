/-
Sets of characters as lists of code point ranges, the form in which the
standard publishes its properties.
-/

namespace InspectionFeed.Text

/-- A set of code points: each pair holds the first and the last of a run. -/
abbrev Ranges := List (Nat × Nat)

/-- The character lies in one of the runs. -/
def Ranges.has (rs : Ranges) (c : Char) : Bool :=
  rs.any fun r => r.1 ≤ c.toNat && c.toNat ≤ r.2

end InspectionFeed.Text
