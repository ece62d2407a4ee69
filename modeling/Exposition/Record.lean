import Exposition.Level
import Exposition.Time.Instant

/-!
# Record — stored explanations

The service keeps every explanation as a **record**; the history lists them in pages.
-/

namespace Exposition

/-- A stored snippet with its explanation.  The service chooses the number `id`, and writes the
explanation in HTML. -/
structure Record where
  id : Int
  code : String
  language : String
  level : Level
  explanation : String
  isFavorite : Bool
  created : Instant
  tags : Option String
deriving DecidableEq, Repr

/-- One page of the history: the records on it, and how many there are on all pages. -/
structure Slice where
  records : List Record
  totalCount : Nat
deriving DecidableEq, Repr

end Exposition
