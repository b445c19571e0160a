import Sift.Json.Text
import Sift.Text.Edit

/-!
# Query similarity

Two queries are as similar as their compact texts (`Text.similarity`). Since values keep their
keys sorted, the key order in which a query was written does not matter.
-/

namespace Sift

/-- The similarity of two queries, over their compact texts. -/
def querySimilarity (a b : Json) : Float :=
  Text.similarity a.compact b.compact

end Sift
