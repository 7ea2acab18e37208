/-!
# Sets of characters given by ranges of code points

A character property of the Unicode standard is kept as the list of its closed ranges of code points.
-/

namespace TypedTemplates.Text

/-- A set of characters, as closed ranges of code points. -/
abbrev CodePoints := List (Nat × Nat)

/-- Whether the character lies in one of the ranges. -/
def CodePoints.contains (set : CodePoints) (c : Char) : Bool :=
  set.any fun range => range.1 ≤ c.toNat && c.toNat ≤ range.2

end TypedTemplates.Text
