/-!
# Ranges of code points

Sets of code points given by ranges that include both of their ends.

## Main definitions

- `inRanges` — whether a character lies in one of some ranges
-/

namespace Sitemap

/-- Whether a character lies in one of some ranges of code points. -/
def inRanges (ranges : List (Nat × Nat)) (c : Char) : Bool :=
  ranges.any fun (first, last) => first ≤ c.toNat && c.toNat ≤ last

end Sitemap
