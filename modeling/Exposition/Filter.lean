import Exposition.Level
import Exposition.Text.Numeral

/-!
# Filter — which records the history lists

The user's filters and the query that asks for one page under them.  A filter text that is blank
counts as absent: `Filters.pairs` leaves it out of the query.
-/

namespace Exposition

/-- **The filters of the history.**  An absent one lets every record through. -/
structure Filters where
  language : Option String := none
  level : Option Level := none
  isFavorite : Option Bool := none
  search : Option String := none
deriving DecidableEq, Repr

namespace Filters

/-- No filter at all. -/
instance : Inhabited Filters := ⟨{}⟩

/-- A text, unless it is blank. -/
def unlessBlank (s : String) : Option String := if Text.blank s then none else some s

/-- The filters with this language; a blank one lifts the filter. -/
def forLanguage (f : Filters) (s : String) : Filters := { f with language := unlessBlank s }

/-- The filters with this level. -/
def forLevel (f : Filters) (level : Level) : Filters := { f with level := some level }

/-- The filters for favorites, or for the others. -/
def forFavorites (f : Filters) (isFavorite : Bool) : Filters :=
  { f with isFavorite := some isFavorite }

/-- The filters with this search term; a blank one lifts the filter. -/
def forTerm (f : Filters) (s : String) : Filters := { f with search := unlessBlank s }

/-- The filters that have an effect, as names and values of a query. -/
def pairs (f : Filters) : List (String × String) :=
  ((f.language.bind unlessBlank).map (("language", ·))).toList ++
    (f.level.map fun level => ("complexity_level", level.name)).toList ++
    (f.isFavorite.map fun b => ("is_favorite", if b then "true" else "false")).toList ++
    ((f.search.bind unlessBlank).map (("search_term", ·))).toList

/-- No filter has an effect. -/
def isEmpty (f : Filters) : Bool := f.pairs.isEmpty

end Filters

/-- **A request for one page** of the history under some filters. -/
structure Query where
  page : Nat
  perPage : Nat
  filters : Filters
deriving DecidableEq, Repr

/-- The names and values that ask for the page: page and page size first, then the filters. -/
def Query.pairs (q : Query) : List (String × String) :=
  ("page", Text.decimal q.page) :: ("per_page", Text.decimal q.perPage) :: q.filters.pairs

end Exposition
