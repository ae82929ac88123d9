/-!
# Ranges of code points

Classes of characters are given as ranges of code points, each with both of its ends.

- `liesIn ranges c`: the character belongs to one of the ranges.
-/

namespace DatePartition.Text

/-- The character belongs to one of the ranges. -/
def liesIn (ranges : List (Nat × Nat)) (c : Char) : Bool :=
  ranges.any fun range => range.1 ≤ c.toNat && c.toNat ≤ range.2

end DatePartition.Text
