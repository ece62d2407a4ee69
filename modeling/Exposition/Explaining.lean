import Exposition.Session
import Exposition.Text.Blank

/-!
# Explaining — submitting snippets

The state behind the explain command is the last explanation that the service gave.  A blank snippet
is refused with a warning and never sent.
-/

namespace Exposition

/-- The last explanation, if there is one. -/
structure Explaining where
  last : Option Explanation := none
deriving DecidableEq

namespace Explaining

variable {σ : Type} [Service σ]

/-- An action on the last explanation. -/
abbrev Act (σ α : Type) : Type := Action ServiceError σ Explaining α

/-- **Submits a snippet.**  A failure leaves the last explanation in place. -/
def submit (snippet : Snippet) : Act σ (Option Explanation) := do
  if Text.blank snippet.code then
    Action.notify (.warning "Please enter some code to explain")
    return none
  else
    match ← Action.ask (.explain snippet) with
    | .ok explanation =>
      Action.notify (.success "Explanation generated successfully!")
      Action.update fun _ => ⟨some explanation⟩
      return some explanation
    | .error e =>
      Action.notify (.error "Failed to generate explanation. Please try again.")
      throw e

/-- Forgets the last explanation. -/
def clear : Act σ Unit := Action.update fun _ => {}

/-- The languages on offer; none if the service does not say. -/
def languages : Act σ (List OfferedLanguage) := do
  match ← Action.ask .languages with
  | .ok options => return options
  | .error _ => return []

/-- The levels on offer; none if the service does not say. -/
def levels : Act σ (List OfferedLevel) := do
  match ← Action.ask .levels with
  | .ok options => return options
  | .error _ => return []

end Explaining

end Exposition
