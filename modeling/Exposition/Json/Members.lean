import Exposition.Json.Reader

/-!
# Json/Members — reading values of a known shape

A structure is written as an object or as an array.  Of an object, the known names may come in any
order and no more than once, and what stands under other names does not matter; an array holds the
values in the order of the known names, and may end early.  `Json.members` finds the values of both,
and the `as…` functions read single values.
-/

namespace Exposition.Json

open Text (maxLong maxSigned)

/-- The values of a structure, by their names; none for a name that has no value. -/
abbrev Members : Type := String → Option Json

/-- The values of an object, if every name is a text and no known name comes twice. -/
def objectMembers (names : List String) (fields : List (Json.Text × Json)) : Option Members :=
  if fields.all (·.1.isSome) && names.all fun name => fields.countP (·.1 == some name) ≤ 1 then
    some fun name => (fields.find? (·.1 == some name)).map (·.2)
  else none

/-- The values of an array, if there are no more of them than names. -/
def arrayMembers (names : List String) (items : List Json) : Option Members :=
  if items.length ≤ names.length then
    some fun name => ((names.zip items).find? (·.1 == name)).map (·.2)
  else none

/-- **The values of a structure** with the given names. -/
def members (names : List String) : Json → Option Members
  | .object fields => objectMembers names fields
  | .array items => arrayMembers names items
  | _ => none

namespace Members

variable {α : Type}

/-- A value that must be there. -/
def required (m : Members) (name : String) (read : Json → Option α) : Option α :=
  (m name).bind read

/-- A value that may be absent. -/
def optional (m : Members) (name : String) (absent : α) (read : Json → Option α) : Option α :=
  match m name with
  | none => some absent
  | some v => read v

end Members

/-! ## Single values -/

/-- A truth value. -/
def asBool : Json → Option Bool
  | .bool b => some b
  | _ => none

/-- A text. -/
def asText : Json → Option String := text?

/-- A signed whole number of 64 bits. -/
def asSigned : Json → Option Int
  | .number n => n.toInt?.filter fun i => -(maxSigned : Int) - 1 ≤ i && i ≤ maxSigned
  | _ => none

/-- An unsigned whole number of 64 bits. -/
def asCount : Json → Option Nat
  | .number n => (n.toInt?.filter fun i => (0 : Int) ≤ i && i ≤ maxLong).map Int.toNat
  | _ => none

/-- A floating-point number. -/
def asFloat : Json → Option Binary64
  | .number n => n.toBinary64?
  | _ => none

/-- An array whose items can all be read. -/
def asList {α : Type} (read : Json → Option α) : Json → Option (List α)
  | .array items => items.mapM read
  | _ => none

/-- A value, or null for its absence. -/
def asOptional {α : Type} (read : Json → Option α) : Json → Option (Option α)
  | .null => some none
  | v => some <$> read v

end Exposition.Json
