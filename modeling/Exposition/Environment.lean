import Exposition.Config
import Exposition.Text.Alphanumeric

/-!
# Environment — variables and their values

In the text of a file a value is written with quotes, escapes and references to other variables.
Between single quotes everything stands for itself.  Elsewhere a backslash makes the next character
stand for itself or, before `n`, for a line feed, and `$NAME` and `${NAME}` stand for the value of a
variable, or for nothing if it has none.  Outside quotes a value ends at the first blank, and only a
comment may follow it.
-/

namespace Exposition

/-- **An environment**: names with their values.  Of two values for a name the first counts. -/
abbrev Environment : Type := List (String × String)

namespace Environment

/-- The value of a name. -/
def get? (e : Environment) (name : String) : Option String := (e.find? (·.1 == name)).map (·.2)

/-- The environment with a value for a name that has none yet. -/
def define (e : Environment) (name value : String) : Environment :=
  if (e.get? name).isSome then e else e ++ [(name, value)]

/-- The settings that the environment gives. -/
def config (e : Environment) : Except SettingError Config :=
  Config.ofVariables fun v => e.get? v.name

/-! ## The text of a value -/

/-- What a value is in the middle of. -/
inductive Mode
  | plain
  /-- After a backslash. -/
  | escape
  /-- Between single quotes. -/
  | literal
  /-- After `$`, with the name so far. -/
  | reference (name : List Char)
  /-- After `$` and an opening brace, with the name so far. -/
  | bracedReference (name : List Char)
  /-- The value has ended, and only a comment may follow. -/
  | ended
  /-- In the comment. -/
  | comment
deriving DecidableEq, Repr

/-- **A value that is being read**: what it stands for so far, whether a double quote is open, and
the mode. -/
structure Value where
  text : List Char := []
  isQuoted : Bool := false
  mode : Mode := .plain
deriving DecidableEq, Repr

namespace Value

/-- The value with more text, in plain mode. -/
def push (v : Value) (cs : List Char) : Value := { v with text := v.text ++ cs, mode := .plain }

/-- What a reference stands for. -/
def referenced (e : Environment) (name : List Char) : List Char :=
  ((e.get? (String.ofList name)).getD "").toList

/-- What a character after a backslash stands for. -/
def unescape (c : Char) : Option Char :=
  if c = '\\' ∨ c = '\'' ∨ c = '"' ∨ c = '$' ∨ c = ' ' then some c
  else if c = 'n' then some '\n'
  else none

/-- A character in plain mode. -/
def stepPlain (v : Value) (c : Char) : Value :=
  if c = '$' then { v with mode := .reference [] }
  else if c = '\\' then { v with mode := .escape }
  else if c = '"' then { v with isQuoted := !v.isQuoted }
  else if v.isQuoted then v.push [c]
  else if c = '\'' then { v with mode := .literal }
  else if c = ' ' ∨ c = '\t' then { v with mode := .ended }
  else v.push [c]

/-- A character that may end a reference.  It then stands for itself, whatever it is, unless it
begins another reference. -/
def stepReference (e : Environment) (v : Value) (name : List Char) (c : Char) : Value :=
  if Text.isAlphanumeric c then { v with mode := .reference (name ++ [c]) }
  else if c = '{' ∧ name = [] then { v with mode := .bracedReference [] }
  else
    let v := v.push (referenced e name)
    if c = '$' then { v with mode := .reference [] } else v.push [c]

/-- **One more character** of a value; none if it may not stand there. -/
def step (e : Environment) (v : Value) (c : Char) : Option Value :=
  match v.mode with
  | .plain => some (v.stepPlain c)
  | .escape => (unescape c).map fun c => v.push [c]
  | .literal =>
    some (if c = '\'' then { v with mode := .plain } else { v with text := v.text ++ [c] })
  | .reference name => some (v.stepReference e name c)
  | .bracedReference name =>
    some (if c = '}' then v.push (referenced e name)
      else { v with mode := .bracedReference (name ++ [c]) })
  | .ended =>
    if c = ' ' ∨ c = '\t' then some v
    else if c = '#' then some { v with mode := .comment }
    else none
  | .comment => some v

/-- What a value stands for at its end; none if a quote or a brace is still open. -/
def finish (e : Environment) (v : Value) : Option (List Char) :=
  if v.isQuoted then none
  else
    match v.mode with
    | .literal => none
    | .bracedReference _ => none
    | .reference name => some (v.text ++ referenced e name)
    | _ => some v.text

end Value

/-- **What the text of a value stands for.** -/
def readValue (e : Environment) (cs : List Char) : Option String := do
  let v ← cs.foldlM (Value.step e) {}
  return String.ofList (← v.finish e)

end Environment

end Exposition
