import Exposition.Json.Token

/-!
# Json/Reader — reading a JSON text

A text is one value.  It is read token by token with the containers that are still open kept in a
list (`Frame`), so that no nesting is too deep.
-/

namespace Exposition.Json

/-- A container that is still open, with what it holds so far, last first. -/
inductive Frame
  | array (items : List Json)
  /-- The name whose value is being read comes after the complete fields. -/
  | object (fields : List (Text × Json)) (name : Text)

/-- What may come next. -/
inductive Mode
  /-- A value must come. -/
  | value
  /-- An array was just opened: a value, or its end. -/
  | item
  /-- An object was just opened: a name, or its end. -/
  | field
  /-- A name must come, after the complete fields of an object. -/
  | name (fields : List (Text × Json))
  /-- A colon must come after a name. -/
  | colon (fields : List (Text × Json)) (name : Text)
  /-- A value is complete. -/
  | done (v : Json)

/-- **A reader**: the open containers, innermost first, and what may come next. -/
structure Reader where
  frames : List Frame
  mode : Mode

namespace Reader

/-- The value that a token is by itself. -/
def scalar : Token → Option Json
  | .null => some .null
  | .bool b => some (.bool b)
  | .number n => some (.number n)
  | .string text => some (.string text)
  | _ => none

/-- The reader after the first token of a value. -/
def beginValue (frames : List Frame) : Token → Option Reader
  | .openArray => some ⟨.array [] :: frames, .item⟩
  | .openObject => some ⟨frames, .field⟩
  | t => (scalar t).map fun v => ⟨frames, .done v⟩

/-- The reader after a token that follows a complete value. -/
def resume (v : Json) : List Frame → Token → Option Reader
  | .array items :: frames, .comma => some ⟨.array (v :: items) :: frames, .value⟩
  | .array items :: frames, .closeArray => some ⟨frames, .done (.array (v :: items).reverse)⟩
  | .object fields name :: frames, .comma => some ⟨frames, .name ((name, v) :: fields)⟩
  | .object fields name :: frames, .closeObject =>
    some ⟨frames, .done (.object ((name, v) :: fields).reverse)⟩
  | _, _ => none

/-- **The reader after one more token.** -/
def feed (r : Reader) (t : Token) : Option Reader :=
  match r.mode, t with
  | .value, t => beginValue r.frames t
  | .item, .closeArray => some ⟨r.frames.tail, .done (.array [])⟩
  | .item, t => beginValue r.frames t
  | .field, .closeObject => some ⟨r.frames, .done (.object [])⟩
  | .field, .string name => some ⟨r.frames, .colon [] name⟩
  | .name fields, .string name => some ⟨r.frames, .colon fields name⟩
  | .colon fields name, .colon => some ⟨.object fields name :: r.frames, .value⟩
  | .done v, t => resume v r.frames t
  | _, _ => none

/-- The value that was read, if it is complete. -/
def result (r : Reader) : Option Json :=
  match r.frames, r.mode with
  | [], .done v => some v
  | _, _ => none

end Reader

/-- **The value that a text is.** -/
def read (bytes : List UInt8) : Option Json := do
  let ts ← tokens bytes
  (← ts.foldlM Reader.feed ⟨[], .value⟩).result

/-! ## Values that hold nothing out of range -/

mutual

/-- A value is nested no deeper than `depth`, all of its strings are texts, and its numbers are in
the range of floating-point numbers. -/
def isSound (depth : Nat) : Json → Bool
  | .null => true
  | .bool _ => true
  | .number n => n.toBinary64?.isSome
  | .string text => text.isSome
  | .array items => match depth with
    | 0 => false
    | depth + 1 => areSound depth items
  | .object fields => match depth with
    | 0 => false
    | depth + 1 => areSoundFields depth fields

/-- `isSound` of every item. -/
def areSound (depth : Nat) : List Json → Bool
  | [] => true
  | v :: vs => isSound depth v && areSound depth vs

/-- `isSound` of every value, under names that are texts. -/
def areSoundFields (depth : Nat) : List (Text × Json) → Bool
  | [] => true
  | (name, v) :: fields => name.isSome && isSound depth v && areSoundFields depth fields

end

/-- The value of a field; of a repeated name the last counts. -/
def field? (name : String) : Json → Option Json
  | .object fields => (fields.reverse.find? (·.1 == some name)).map (·.2)
  | _ => none

/-- The text of a string. -/
def text? : Json → Option String
  | .string text => text
  | _ => none

end Exposition.Json
