import Exposition.Paging
import Exposition.Session

/-!
# History — the list of past explanations, page by page

The state behind the history list: filters, paging, the records of the last answer, the open record
and what the list area shows.  Every page that is asked for gets a **ticket** with a number one
above the last; an answer whose ticket is no longer the newest is dropped, so the last request wins
(`History.settle`).  The records are never edited here: after a change they are asked for again.
-/

namespace Exposition

/-- What the user is asked before a record is deleted. -/
def deletionQuestion : String := "Are you sure you want to delete this explanation?"

/-- What the list area shows. -/
inductive View
  /-- Nothing has been asked for yet. -/
  | idle
  | loading
  | empty
  | items
  | failed (message : String)
deriving DecidableEq, Repr

/-- **One request for a page**: its number, counted from 1, and its query. -/
structure Ticket where
  number : Nat
  query : Query
deriving DecidableEq, Repr

/-- What became of the reply to a ticket. -/
inductive Outcome
  | applied
  /-- A newer ticket was issued in the meantime. -/
  | stale
  | failed (error : ServiceError)
deriving DecidableEq, Repr

/-- **The state of the history list.** -/
structure History where
  filters : Filters
  paging : Paging
  records : List Record
  selected : Option Record
  view : View
  languages : List OfferedLanguage
  issued : Nat
deriving DecidableEq

namespace History

/-- The state before anything was asked for. -/
def start (perPage : Nat) : History where
  filters := {}
  paging := .start perPage
  records := []
  selected := none
  view := .idle
  languages := []
  issued := 0

/-- The number of the open record. -/
def selectedId (h : History) : Option Int := h.selected.map (·.id)

/-- A record is open. -/
def isOpen (h : History) : Bool := h.selected.isSome

/-- The positions of the records shown, `(0, 0)` if there are none. -/
def range (h : History) : Nat × Nat := h.paging.range.getD (0, 0)

/-- The query for the current page under the current filters. -/
def query (h : History) : Query := ⟨h.paging.page, h.paging.perPage, h.filters⟩

/-! ## Tickets -/

/-- A new ticket for the current page, and the state that waits for it. -/
def issue (h : History) : Ticket × History :=
  (⟨h.issued + 1, h.query⟩, { h with issued := h.issued + 1, view := .loading })

/-- The open record as the records hold it now; unchanged if they do not hold it. -/
def refreshed (records : List Record) (selected : Option Record) : Option Record :=
  selected.map fun r => (records.find? (·.id == r.id)).getD r

/-- The state after an answer that counts. -/
def apply (h : History) (slice : Slice) : History :=
  { h with
    paging := h.paging.withTotal slice.totalCount
    records := slice.records
    selected := refreshed slice.records h.selected
    view := if slice.records.isEmpty then .empty else .items }

/-- What the list area says after a failed request. -/
def loadFailure : String := "Failed to load your code history. Please try again."

/-- **The reply to a ticket** takes effect if no newer ticket was issued since. -/
def settle (h : History) (t : Ticket) (reply : Except ServiceError Slice) : Outcome × History :=
  if t.number < h.issued then (.stale, h)
  else
    match reply with
    | .ok slice => (.applied, h.apply slice)
    | .error e => (.failed e, { h with view := .failed loadFailure })

/-! ## What needs no request -/

/-- The state with other filters, on page 1. -/
def withFilters (h : History) (filters : Filters) : History :=
  { h with filters, paging := h.paging.atPage 1 }

/-- The state on another page. -/
def atPage (h : History) (page : Nat) : History := { h with paging := h.paging.atPage page }

/-- The state with a record open. -/
def select (h : History) (r : Record) : History := { h with selected := some r }

/-- The state with no record open. -/
def deselect (h : History) : History := { h with selected := none }

/-- The state after a record was deleted: if it was open, it no longer is. -/
def forget (h : History) (id : Int) : History :=
  if h.selectedId = some id then h.deselect else h

/-- The state after the favorite flag of a record was set: if it is open, its flag is set too. -/
def mark (h : History) (id : Int) (isFavorite : Bool) : History :=
  { h with
    selected := h.selected.map fun r => if r.id = id then { r with isFavorite } else r }

/-- The page to fall back to when the last page has vanished under the user. -/
def fallbackPage (h : History) : Option Nat :=
  let page := h.paging.page
  let last := h.paging.totalPages
  if h.records.isEmpty && decide (1 < page) && decide (last < page) then some (max last 1)
  else none

end History

end Exposition
