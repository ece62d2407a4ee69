import Exposition.Display.Record
import Exposition.History

/-!
# Display/History — the history list as text
-/

namespace Exposition

open Text

namespace History

/-- The cards of the records on the page, numbered from 1. -/
def cards (h : History) : List String := h.records.zipIdx.map fun (r, i) => r.card (i + 1)

/-- The line with the page number, shown if there are several pages. -/
def pageLine (h : History) : String :=
  let controls := h.paging.controls
  (if controls.hasPrevious then "[p]rev" else " prev ") ++
    "  Page " ++ decimal h.paging.page ++ " of " ++ decimal h.paging.totalPages ++ "  " ++
    (if controls.hasNext then "[n]ext" else " next ")

/-- The line above the cards. -/
def summaryLine (h : History) : String :=
  "Showing " ++ decimal h.range.1 ++ "-" ++ decimal h.range.2 ++ " of " ++
    decimal h.paging.totalCount ++ " explanations"

/-- The lines of the list area; a card takes several. -/
def listingLines (h : History) : List String :=
  match h.view with
  | .idle => ["Loading history..."]
  | .loading => ["Loading history..."]
  | .failed message => ["Error loading history: " ++ message, "Type 'r' to try again."]
  | .empty =>
    "No explanations found." ::
      (if h.filters.isEmpty then [] else ["Try clearing the filters with 'clear'."])
  | .items =>
    h.summaryLine :: h.cards ++ (if h.paging.controls.visible then [h.pageLine] else [])

/-- **The list area**: the cards, or why there are none. -/
def listing (h : History) : String := unlines h.listingLines

end History

end Exposition
