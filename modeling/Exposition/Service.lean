import Exposition.Catalogue
import Exposition.Filter
import Exposition.Record

/-!
# Service — what the explaining service can be asked

Every exchange with the service is one **request** and its answer: a value of the type that the
request calls for, or a `ServiceError`.  A `Service` is any state that answers requests, so that a
statement about every service speaks of every pattern of answers and failures.
-/

namespace Exposition

/-- Why the service gave no answer. -/
inductive ServiceError
  /-- The service knows no such thing. -/
  | notFound (detail : String)
  /-- The service refuses the request. -/
  | rejected (detail : String)
  /-- The service could not be reached. -/
  | transport (detail : String)
  /-- The answer made no sense. -/
  | unexpected (detail : String)
deriving DecidableEq, Repr

/-- What the user is told about a failed request. -/
def ServiceError.message : ServiceError → String
  | .notFound detail => "Item not found: " ++ detail
  | .rejected detail => "Request rejected: " ++ detail
  | .transport detail => "Could not reach the backend: " ++ detail
  | .unexpected detail => "An unexpected error occurred: " ++ detail

/-- **Everything the service can be asked.** -/
inductive Request
  /-- One page of the history. -/
  | list (query : Query)
  /-- One record. -/
  | get (id : Int)
  /-- Set the favorite flag of a record. -/
  | mark (id : Int) (isFavorite : Bool)
  /-- Delete a record. -/
  | delete (id : Int)
  /-- Counts over the history. -/
  | stats
  /-- The languages on offer. -/
  | languages
  /-- The levels on offer. -/
  | levels
  /-- Explain a snippet. -/
  | explain (snippet : Snippet)
  /-- The service's own health. -/
  | health
deriving DecidableEq, Repr

/-- The type of a request's answer; setting a favorite flag is answered by a message. -/
@[reducible] def Request.Answer : Request → Type
  | .list _ => Slice
  | .get _ => Record
  | .mark _ _ => String
  | .delete _ => Unit
  | .stats => Stats
  | .languages => List OfferedLanguage
  | .levels => List OfferedLevel
  | .explain _ => Explanation
  | .health => Health

/-- An answer, or the reason why there is none. -/
abbrev Request.Reply (r : Request) : Type := Except ServiceError r.Answer

/-- **A service**: states that answer every request and move on. -/
class Service (σ : Type) where
  /-- The reply to a request, and the state after it. -/
  answer : (r : Request) → σ → r.Reply × σ

end Exposition
