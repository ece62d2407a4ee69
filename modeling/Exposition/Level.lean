import Exposition.Text.Blank
import Exposition.Text.Lowercase

/-!
# Level — how deep an explanation goes

The three levels of an explanation, their names, and reading a name back (`Level.read`): blanks
around it and the case of its letters do not matter.
-/

namespace Exposition

/-- The depth of explanation asked for a snippet. -/
inductive Level
  | beginner
  | intermediate
  | advanced
deriving DecidableEq, Repr

namespace Level

/-- Unless another level is asked for, explanations are intermediate. -/
instance : Inhabited Level := ⟨.intermediate⟩

/-- Every level, the easiest first. -/
def all : List Level := [.beginner, .intermediate, .advanced]

/-- The name of a level, as it is sent, stored and shown. -/
def name : Level → String
  | .beginner => "beginner"
  | .intermediate => "intermediate"
  | .advanced => "advanced"

end Level

/-- A text that names no level. -/
structure UnknownLevel where
  text : String
deriving DecidableEq, Repr

/-- What the user is told about it. -/
def UnknownLevel.message (e : UnknownLevel) : String :=
  "unknown complexity level '" ++ e.text ++ "' (expected beginner, intermediate or advanced)"

/-- **The level that a text names.** -/
def Level.read (s : String) : Except UnknownLevel Level :=
  let word := Text.lowered (Text.trimmed s)
  match Level.all.find? (·.name == word) with
  | some level => .ok level
  | none => .error ⟨s⟩

end Exposition
