import Exposition.Json.Members
import Exposition.Proofs.Each
import Mathlib.Data.List.Nodup

/-!
# Proofs/Json/Shape — which values can be read

A **shape** says what a value must be like, with no word on how it is read.  A reader **reads** a
shape if it gives a result for the values of that shape and no others (`Reads`); then a structure
can be read exactly if all of its parts can (`reads_struct`).
-/

namespace Exposition.Json

/-! ## Shapes -/

/-- The values that the fields of an object give to a name. -/
def valuesAt (name : String) (fields : List (Text × Json)) : List Json :=
  (fields.filter (·.1 == some name)).map (·.2)

/-- **A shape of values.** -/
abbrev Shape : Type := Json → Prop

namespace Shape

/-- A truth value. -/
def truth : Shape := fun v => ∃ b, v = .bool b

/-- A text. -/
def text : Shape := fun v => ∃ s, v = .ofString s

/-- A signed whole number of 64 bits. -/
def signed : Shape := fun v => ∃ n i, v = .number n ∧ n.toInt? = some i
  ∧ -(Text.maxSigned : Int) - 1 ≤ i ∧ i ≤ Text.maxSigned

/-- An unsigned whole number of 64 bits. -/
def count : Shape := fun v => ∃ n i, v = .number n ∧ n.toInt? = some i ∧ 0 ≤ i ∧ i ≤ Text.maxLong

/-- A number in the range of floating-point numbers. -/
def float : Shape := fun v => ∃ n, v = .number n ∧ n.toBinary64?.isSome

/-- An array of items of a shape. -/
def listOf (item : Shape) : Shape := fun v => ∃ items, v = .array items ∧ ∀ w ∈ items, item w

/-- A value of a shape, or null. -/
def orNull (shape : Shape) : Shape := fun v => v = .null ∨ shape v

/-- A part of a structure, under a name. -/
structure Part where
  name : String
  isRequired : Bool
  shape : Shape

/-- A part that must be there. -/
def must (name : String) (shape : Shape) : Part := ⟨name, true, shape⟩

/-- A part that may be absent. -/
def may (name : String) (shape : Shape) : Part := ⟨name, false, shape⟩

/-- A part comes once, or not at all if it is not required. -/
def Part.Admits (part : Part) : List Json → Prop
  | [] => part.isRequired = false
  | [v] => part.shape v
  | _ => False

/-- **A structure**: an object that has these parts and perhaps other fields, or an array of the
parts in this order. -/
def struct (parts : List Part) : Shape
  | .object fields =>
    (∀ f ∈ fields, f.1.isSome) ∧ ∀ part ∈ parts, Part.Admits part (valuesAt part.name fields)
  | .array items =>
    items.length ≤ parts.length
      ∧ ∀ (i : Nat) (part : Part), parts[i]? = some part → part.Admits items[i]?.toList
  | _ => False

end Shape

/-! ## Readers of single values -/

/-- **A reader reads a shape**: it gives a result for the values of that shape and no others. -/
def Reads {α : Type} (shape : Shape) (read : Json → Option α) : Prop :=
  ∀ v, (read v).isSome ↔ shape v

theorem reads_truth : Reads .truth asBool := fun v => by
  cases v with
  | _ => simp [asBool, Shape.truth]

theorem reads_text : Reads .text asText := fun v => by
  cases v with
  | _ => simp [asText, text?, Shape.text, ofString, Option.isSome_iff_exists]

theorem isSome_filter_iff {α : Type} {o : Option α} {p : α → Bool} :
    (o.filter p).isSome ↔ ∃ a, o = some a ∧ p a = true := by
  simp only [Option.isSome_iff_exists, Option.filter_eq_some_iff]

theorem reads_signed : Reads .signed asSigned := fun v => by
  cases v with
  | number n =>
    rw [asSigned, isSome_filter_iff]
    simp [Shape.signed]
  | _ => simp [asSigned, Shape.signed]

theorem reads_count : Reads .count asCount := fun v => by
  cases v with
  | number n =>
    rw [asCount, Option.isSome_map, isSome_filter_iff]
    simp [Shape.count]
  | _ => simp [asCount, Shape.count]

theorem reads_float : Reads .float asFloat := fun v => by
  cases v with
  | _ => simp [asFloat, Shape.float]

section Readers

variable {α : Type} {shape : Shape} {read : Json → Option α}

theorem reads_listOf (reads : Reads shape read) : Reads (.listOf shape) (asList read) := fun v => by
  cases v with
  | array items => simp [asList, Shape.listOf, isSome_mapM, reads _]
  | _ => simp [asList, Shape.listOf]

theorem reads_orNull (reads : Reads shape read) :
    Reads (.orNull shape) (asOptional read) := fun v => by
  cases v with
  | null => simp [asOptional, Shape.orNull]
  | _ => simp [asOptional, Shape.orNull, reads _]

/-! ## Structures -/

open Shape (Part must may)

theorem admits_iff {part : Part} {vs : List Json} :
    part.Admits vs ↔ vs.length ≤ 1 ∧ part.Admits vs.head?.toList := by
  match vs with
  | [] => simp
  | [v] => simp
  | v :: w :: vs => simp [Part.Admits]

/-- The first of the values that fields give to each name. -/
def firstValues (fields : List (Text × Json)) : Members := fun name => (valuesAt name fields).head?

theorem find?_eq_firstValues (fields : List (Text × Json)) (name : String) :
    (fields.find? (·.1 == some name)).map (·.2) = firstValues fields name := by
  rw [firstValues, valuesAt, List.head?_map, List.head?_filter]

theorem objectMembers_eq_some_iff {names : List String} {fields : List (Text × Json)}
    {m : Members} : objectMembers names fields = some m ↔
      ((∀ f ∈ fields, f.1.isSome) ∧ ∀ name ∈ names, (valuesAt name fields).length ≤ 1)
        ∧ m = firstValues fields := by
  have counted (name : String) :
      fields.countP (·.1 == some name) = (valuesAt name fields).length := by
    rw [valuesAt, List.length_map, List.countP_eq_length_filter]
  simp only [objectMembers, find?_eq_firstValues, counted, Option.ite_none_right_eq_some,
    Bool.and_eq_true, List.all_eq_true, decide_eq_true_iff, Option.some.injEq]
  exact and_congr_right fun _ => eq_comm

theorem valuesAt_of_mem {name : String} {fields : List (Text × Json)} {v : Json}
    (mem : (some name, v) ∈ fields) (once : (valuesAt name fields).length ≤ 1) :
    valuesAt name fields = [v] := by
  have value : v ∈ valuesAt name fields :=
    List.mem_map.2 ⟨_, List.mem_filter.2 ⟨mem, by simp⟩, rfl⟩
  cases same : valuesAt name fields with
  | nil => exact absurd (same ▸ value) List.not_mem_nil
  | cons w vs =>
    rw [same] at value once
    obtain rfl : vs = [] := List.eq_nil_of_length_eq_zero (by simpa using once)
    rw [List.mem_singleton.1 value]

theorem required_eq {fields : List (Text × Json)} {name : String} {v : Json}
    (values : valuesAt name fields = [v]) :
    (firstValues fields).required name read = read v := by
  rw [Members.required, firstValues, values]
  rfl

theorem optional_of_nil {fields : List (Text × Json)} {name : String} {absent : α}
    (values : valuesAt name fields = []) :
    (firstValues fields).optional name absent read = some absent := by
  rw [Members.optional, firstValues, values]
  rfl

theorem optional_eq {absent : α} {fields : List (Text × Json)} {name : String} {v : Json}
    (values : valuesAt name fields = [v]) :
    (firstValues fields).optional name absent read = read v := by
  rw [Members.optional, firstValues, values]
  rfl

/-- Under the `i`-th of some names stands the `i`-th item. -/
theorem find?_zip {names : List String} (distinct : names.Nodup) {i : Nat} {name : String}
    (place : names[i]? = some name) (items : List Json) :
    ((names.zip items).find? (·.1 == name)).map (·.2) = items[i]? := by
  induction names generalizing i items with
  | nil => exact absurd place (by simp)
  | cons first names ih =>
    cases items with
    | nil => simp
    | cons v items =>
      cases i with
      | zero =>
        obtain rfl : first = name := Option.some.inj place
        simp
      | succ i =>
        have later : names[i]? = some name := place
        have other : (first == name) = false := beq_false_of_ne <| by
          rintro rfl
          exact (List.nodup_cons.1 distinct).1 (List.mem_of_getElem? later)
        rw [List.zip_cons_cons, List.find?_cons_of_neg (by simp [other]),
          ih (List.nodup_cons.1 distinct).2 later]
        rfl

/-- The members of a structure have some parts. -/
def Members.Has (m : Members) (parts : List Part) : Prop :=
  ∀ part ∈ parts, part.Admits (m part.name).toList

/-- **A structure's parts are those of its members.** -/
theorem struct_iff {parts : List Part} (distinct : (parts.map Part.name).Nodup) {v : Json} :
    Shape.struct parts v ↔
      ∃ m, v.members (parts.map Part.name) = some m ∧ m.Has parts := by
  cases v with
  | object fields =>
    simp only [Shape.struct, members, objectMembers_eq_some_iff, List.forall_mem_map]
    constructor
    · rintro ⟨named, each⟩
      exact ⟨_, ⟨⟨named, fun part mem => (admits_iff.1 (each part mem)).1⟩, rfl⟩,
        fun part mem => (admits_iff.1 (each part mem)).2⟩
    · rintro ⟨m, ⟨⟨named, once⟩, rfl⟩, each⟩
      exact ⟨named, fun part mem => admits_iff.2 ⟨once part mem, each part mem⟩⟩
  | array items =>
    have found {i : Nat} {part : Part} (place : parts[i]? = some part) :
        (((parts.map Part.name).zip items).find? (·.1 == part.name)).map (·.2) = items[i]? := by
      refine find?_zip distinct ?_ items
      rw [List.getElem?_map, place, Option.map_some]
    simp only [Shape.struct, members, arrayMembers, Option.ite_none_right_eq_some,
      Option.some.injEq, List.length_map]
    constructor
    · rintro ⟨short, each⟩
      refine ⟨_, ⟨short, rfl⟩, fun part mem => ?_⟩
      obtain ⟨i, place⟩ := List.mem_iff_getElem?.1 mem
      rw [found place]
      exact each i part place
    · rintro ⟨m, ⟨short, rfl⟩, each⟩
      refine ⟨short, fun i part place => ?_⟩
      rw [← found place]
      exact each part (List.mem_of_getElem? place)
  | _ => simp [Shape.struct, members]

/-- **A structure can be read exactly if its parts can.** -/
theorem reads_struct {parts : List Part} (distinct : (parts.map Part.name).Nodup)
    {f : Members → Option α} (each : ∀ m, (f m).isSome ↔ m.Has parts) :
    Reads (.struct parts) fun v => (v.members (parts.map Part.name)).bind f := fun v => by
  rw [isSome_bind_iff, struct_iff distinct]
  exact exists_congr fun m => and_congr_right fun _ => each m

namespace Members

variable {m : Members} {parts : List Part}

/-! A structure is read part by part. -/

theorem nil_isSome (a : α) : (some a).isSome ↔ m.Has [] := by simp [Has]

theorem bind_isSome {β : Type} {part : Part} {found : Option α} {f : α → Option β}
    (first : found.isSome ↔ part.Admits (m part.name).toList)
    (more : ∀ a, (f a).isSome ↔ m.Has parts) : (found.bind f).isSome ↔ m.Has (part :: parts) := by
  rw [isSome_bind_iff, Has, List.forall_mem_cons]
  change _ ↔ part.Admits (m part.name).toList ∧ m.Has parts
  simp only [more, exists_and_right, ← Option.isSome_iff_exists, first]

theorem required_isSome {β : Type} {name : String} {f : α → Option β} (reads : Reads shape read)
    (more : ∀ a, (f a).isSome ↔ m.Has parts) :
    ((m.required name read).bind f).isSome ↔ m.Has (must name shape :: parts) := by
  refine bind_isSome ?_ more
  rw [required, must]
  cases m name with
  | none => simp [Part.Admits]
  | some v => exact reads v

theorem optional_isSome {β : Type} {name : String} {absent : α} {f : α → Option β}
    (reads : Reads shape read) (more : ∀ a, (f a).isSome ↔ m.Has parts) :
    ((m.optional name absent read).bind f).isSome ↔ m.Has (may name shape :: parts) := by
  refine bind_isSome ?_ more
  rw [optional, may]
  cases m name with
  | none => simp [Part.Admits]
  | some v => exact reads v

end Members

end Readers

end Exposition.Json
