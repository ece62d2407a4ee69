import Exposition.Language
import Exposition.Level
import Exposition.Number.Binary64

/-!
# Catalogue — what the service offers and reports

The languages and levels on offer, explanations on request, and the reports on the history and on
the service's own health.
-/

namespace Exposition

/-- A language that the service can explain. -/
structure OfferedLanguage where
  value : String
  name : String
  icon : String
deriving DecidableEq, Repr

/-- A level as the service describes it. -/
structure OfferedLevel where
  level : Level
  name : String
  description : String
  icon : String
deriving DecidableEq, Repr

/-- A snippet to be explained. -/
structure Snippet where
  code : String
  language : Language
  level : Level
deriving DecidableEq, Repr

/-- The explanation of a snippet, in HTML, with the language that was used and the seconds that it
took, if they are known. -/
structure Explanation where
  text : String
  language : String
  level : Level
  seconds : Option Binary64
deriving DecidableEq, Repr

/-- Counts over the whole history. -/
structure Stats where
  total : Nat
  favorites : Nat
  byLanguage : List (String × Nat)
  byLevel : List (String × Nat)
deriving DecidableEq, Repr

/-- How the service and what it depends on are doing. -/
structure Health where
  status : String
  version : String
  llmService : String
  database : String
deriving DecidableEq, Repr

/-- The service says of itself that all is well. -/
def Health.isHealthy (h : Health) : Bool := h.status == "healthy"

end Exposition
