import Exposition.Proofs.Json.Writing
import Exposition.Proofs.Wire.Listing

/-!
# Proofs/Wire/Telling — every page can be told

Whatever the records of a page are, as long as they can be sent at all, there is an object that
tells the page (`Slice.toldBy_toFields`) and a text that spells it (`Slice.isWritable_toFields`).
-/

namespace Exposition

open Json

/-- A record that can be sent: its number fits, its time is one of the years 0 to 9999, and its tags
are not blank. -/
structure Record.IsSendable (r : Record) : Prop where
  range : -(Text.maxSigned : Int) - 1 ≤ r.id ∧ r.id ≤ Text.maxSigned
  told : Timestamp.IsTold r.created
  years : 0 ≤ r.created.date.year ∧ r.created.date.year ≤ 9999
  tags : ∀ s ∈ r.tags, Text.blank s = false

/-- The tags of a record as they are stored. -/
def tagsValue : Option String → Json
  | none => .null
  | some s => .ofString s

/-- The fields of a record in the order of the service. -/
def Record.toFields (r : Record) : List (Json.Text × Json) := [
  (some "id", .ofInt r.id), (some "code_snippet", .ofString r.code),
  (some "language", .ofString r.language), (some "explanation", .ofString r.explanation),
  (some "complexity_level", .ofString r.level.name),
  (some "created_at", .ofString (String.ofList (Timestamp.ofInstant r.created))),
  (some "is_favorite", .bool r.isFavorite),
  (some "tags", tagsValue r.tags)]

theorem Record.toldBy_toFields {r : Record} (sendable : r.IsSendable) : r.ToldBy r.toFields where
  named := by simp [toFields]
  range := sendable.range
  id := rfl
  code := rfl
  language := rfl
  explanation := rfl
  level := .named (by cases r.level with | _ => decide)
  created := .written sendable.told sendable.years.1 sendable.years.2
    (Timestamp.writes_ofInstant r.created)
  isFavorite := .flag r.isFavorite
  tags := by
    have values : valuesAt "tags" r.toFields = [tagsValue r.tags] := rfl
    rw [values]
    cases tags : r.tags with
    | none => exact .null
    | some s => exact .some (sendable.tags s tags)

theorem Record.isWritable_toFields (r : Record) : areWritableFields r.toFields := by
  simp only [toFields, areWritableFields, isWritable_ofInt, ofString, isWritable,
    Option.isSome_some, Bool.and_true]
  cases r.tags with
  | _ => rfl

/-- The fields of a page in the order of the service. -/
def Slice.toFields (slice : Slice) : List (Json.Text × Json) := [
  (some "success", .bool true),
  (some "explanations", .array (slice.records.map fun r => .object r.toFields)),
  (some "total_count", .ofInt slice.totalCount)]

theorem Slice.isWritable_toFields (slice : Slice) : (Json.object slice.toFields).isWritable := by
  have records : areWritable (slice.records.map fun r => .object r.toFields) := by
    refine areWritable_of_forall fun v mem => ?_
    obtain ⟨r, -, rfl⟩ := List.mem_map.1 mem
    exact r.isWritable_toFields
  simp only [toFields, isWritable, areWritableFields, records, isWritable_ofInt, Option.isSome_some,
    Bool.and_self]

/-- **Every page that can be sent is told by some fields.** -/
theorem Slice.toldBy_toFields {slice : Slice} (sendable : ∀ r ∈ slice.records, r.IsSendable)
    (range : slice.totalCount ≤ Text.maxLong) : slice.ToldBy slice.toFields where
  named := by simp [toFields]
  success := rfl
  records := by
    refine ⟨slice.records.map Record.toFields, ?_, ?_⟩
    · rw [List.map_map]
      rfl
    · rw [List.forall₂_map_right_iff, List.forall₂_same]
      exact fun r mem => Record.toldBy_toFields (sendable r mem)
  range := range
  total := rfl

end Exposition
