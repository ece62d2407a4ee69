import Exposition.History
import Exposition.Text.Blank

/-!
# History/Action — what the user does with the history

The actions on a history that ask the service: loading a page, filtering, turning pages, favorites
and deletions.  An action that fails has told the user so; one that gives `false` has done nothing.
-/

namespace Exposition

namespace History

variable {σ : Type}

/-- An action on the history list. -/
abbrev Act (σ α : Type) : Type := Action ServiceError σ History α

/-! ## Loading -/

/-- Issues a ticket for the current page. -/
def issueTicket : Act σ Ticket := do
  let (ticket, next) := (← Action.state).issue
  Action.update fun _ => next
  return ticket

/-- Settles a ticket; the user hears of a failure. -/
def settleTicket (t : Ticket) (reply : Except ServiceError Slice) : Act σ Outcome := do
  let (outcome, next) := (← Action.state).settle t reply
  Action.update fun _ => next
  if let .failed _ := outcome then
    Action.notify (.error "Failed to load history")
  return outcome

variable [Service σ]

/-- **Loads the current page** under the current filters. -/
def load : Act σ Unit := do
  let ticket ← issueTicket
  let reply ← Action.ask (.list ticket.query)
  match ← settleTicket ticket reply with
  | .failed e => throw e
  | _ => return ()

/-- Loads the languages for the language filter; a failure leaves them as they are. -/
def learnLanguages : Act σ Unit := do
  match ← Action.ask .languages with
  | .ok options => Action.update fun h => { h with languages := options }
  | .error _ => return ()

/-- Loads the first page and then the languages. -/
def openUp : Act σ Unit := do
  let loaded ← Action.attempt load
  learnLanguages
  match loaded with
  | .ok _ => return ()
  | .error e => throw e

/-! ## Filters and pages -/

/-- Replaces the filters and starts again from page 1. -/
def filterBy (filters : Filters) : Act σ Unit := do
  Action.update (·.withFilters filters)
  load

/-- Lifts all filters. -/
def liftFilters : Act σ Unit := filterBy {}

/-- Goes to a page and loads it. -/
def turnTo (page : Nat) : Act σ Unit := do
  Action.update (·.atPage page)
  load

/-- **Moves `delta` pages**, if there is such a page. -/
def turnBy (delta : Int) : Act σ Bool := do
  match (← Action.state).paging.target delta with
  | none => return false
  | some page =>
    turnTo page
    return true

/-- **Goes straight to a page**, if there is such a page. -/
def jumpTo (page : Nat) : Act σ Bool := do
  if page = 0 ∨ (← Action.state).paging.totalPages < page then
    return false
  else
    turnTo page
    return true

/-- One page on. -/
def turnForward : Act σ Bool := turnBy 1

/-- One page back. -/
def turnBack : Act σ Bool := turnBy (-1)

/-! ## Favorites and deletions -/

/-- **Sets the favorite flag** of a record at the service, then loads the current page again. -/
def markFavorite (id : Int) (isFavorite : Bool) : Act σ Unit := do
  match ← Action.ask (.mark id isFavorite) with
  | .ok message =>
    Action.notify (.success (if Text.blank message then "Favorite status updated" else message))
    Action.update (·.mark id isFavorite)
    load
  | .error e =>
    Action.notify (.error "Failed to update favorite status")
    throw e

/-- Leaves a page that no longer exists for the last one that does. -/
def leaveVanishedPage : Act σ Unit := do
  match (← Action.state).fallbackPage with
  | none => return ()
  | some page => turnTo page

/-- **Deletes a record**, if the user has confirmed it, and loads the page again. -/
def discard (id : Int) (confirmed : Bool) : Act σ Bool := do
  if confirmed then
    match ← Action.ask (.delete id) with
    | .ok _ =>
      Action.notify (.success "Explanation deleted successfully")
      Action.update (·.forget id)
      load
      leaveVanishedPage
      return true
    | .error e =>
      Action.notify (.error "Failed to delete explanation")
      throw e
  else
    return false

/-- Turns the favorite flag of the open record over, if one is open. -/
def toggleOpen : Act σ Bool := do
  match (← Action.state).selected with
  | none => return false
  | some r =>
    markFavorite r.id (!r.isFavorite)
    return true

/-- Deletes the open record, if one is open and the user has confirmed it, and closes it. -/
def discardOpen (confirmed : Bool) : Act σ Bool := do
  match (← Action.state).selectedId with
  | none => return false
  | some id =>
    let deleted ← discard id confirmed
    if deleted then
      Action.update (·.deselect)
    return deleted

end History

end Exposition
