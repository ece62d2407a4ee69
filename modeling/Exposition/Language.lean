import Exposition.Text.Blank
import Exposition.Text.Lowercase

/-!
# Language — the language of a snippet

A snippet is sent either with the tag of its language or with the request to detect it.
-/

namespace Exposition

/-- The language sent along with a snippet. -/
inductive Language
  /-- The service is to detect the language. -/
  | auto
  /-- A tag in small letters, such as `python`. -/
  | tag (name : String)
deriving DecidableEq, Repr

namespace Language

/-- Unless a language is given, it is detected. -/
instance : Inhabited Language := ⟨.auto⟩

/-- **The language that a text names**: a blank text, `auto` and `auto-detect` ask for detection,
and any other is a tag, in small letters and without the blanks around it. -/
def read (s : String) : Language :=
  let word := Text.lowered (Text.trimmed s)
  if word = "" ∨ word = "auto" ∨ word = "auto-detect" then .auto else .tag word

/-- The tag, if there is one. -/
def tag? : Language → Option String
  | .auto => none
  | .tag name => some name

end Language

end Exposition
