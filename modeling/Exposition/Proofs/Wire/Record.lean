import Exposition.Proofs.Json.Shape
import Exposition.Proofs.Level
import Exposition.Proofs.Text.Numeral
import Exposition.Proofs.Time.Timestamp
import Exposition.Proofs.Wire.Shape

/-!
# Proofs/Wire/Record — the fields that tell a record

A record can be told in many ways (`Record.ToldBy`): its fields come in any order and among any
others, a part that has its default value may be left out, a level is written in letters of either
case, and the time by any of its timestamps.  However it is told, it is read as it is
(`ofJson_of_toldBy`).
-/

namespace Exposition

open Json

/-! ## How a record is told -/

/-- The values that tell a level: its name in letters of either case, or nothing that counts for the
level that nobody chose. -/
inductive LevelTold : Level → List Json → Prop
  | named {level : Level} {s : String} : s.toList.map Char.toLower = level.name.toList →
    LevelTold level [.ofString s]
  | absent : LevelTold default []
  | null : LevelTold default [.null]
  | empty : LevelTold default [.ofString ""]

/-- The values that tell the favorite flag. -/
inductive FlagTold : Bool → List Json → Prop
  | flag (b : Bool) : FlagTold b [.bool b]
  | absent : FlagTold false []

/-- The values that tell the tags: a text that is not blank, or nothing that counts for none. -/
inductive TagsTold : Option String → List Json → Prop
  | some {s : String} : Text.blank s = false → TagsTold (some s) [.ofString s]
  | absent : TagsTold none []
  | null : TagsTold none [.null]
  | blank {s : String} : Text.blank s = true → TagsTold none [.ofString s]

/-- The values that tell a time of the years 0 to 9999: a timestamp of it. -/
inductive TimeTold (t : Instant) : List Json → Prop
  | written {cs : List Char} : Timestamp.IsTold t → 0 ≤ t.date.year → t.date.year ≤ 9999 →
    Timestamp.Writes t cs → TimeTold t [.ofString (String.ofList cs)]

/-- **The fields that tell a record**, in any order and among any other fields. -/
structure Record.ToldBy (r : Record) (fields : List (Json.Text × Json)) : Prop where
  named : ∀ f ∈ fields, f.1.isSome
  range : -(Text.maxSigned : Int) - 1 ≤ r.id ∧ r.id ≤ Text.maxSigned
  id : valuesAt "id" fields = [.ofInt r.id]
  code : valuesAt "code_snippet" fields = [.ofString r.code]
  language : valuesAt "language" fields = [.ofString r.language]
  explanation : valuesAt "explanation" fields = [.ofString r.explanation]
  level : LevelTold r.level (valuesAt "complexity_level" fields)
  created : TimeTold r.created (valuesAt "created_at" fields)
  isFavorite : FlagTold r.isFavorite (valuesAt "is_favorite" fields)
  tags : TagsTold r.tags (valuesAt "tags" fields)

/-! ## Reading -/

/-! ### Single values -/

theorem toInt?_ofInt (n : Int) :
    ∃ number, Json.ofInt n = .number number ∧ number.toInt? = some n := by
  refine ⟨_, rfl, ?_⟩
  simp only [Number.toInt?, Option.isSome_none, Bool.or_self, Bool.false_eq_true, if_false,
    Text.digitsValue_toDigits, decide_eq_true_eq]
  by_cases negative : n < 0
  · rw [if_pos negative, if_neg (by omega)]
    congr 1
    omega
  · rw [if_neg negative]
    congr 1
    omega

theorem asSigned_ofInt {n : Int} (low : -(Text.maxSigned : Int) - 1 ≤ n)
    (high : n ≤ Text.maxSigned) : asSigned (.ofInt n) = some n := by
  obtain ⟨number, same, value⟩ := toInt?_ofInt n
  rw [same, asSigned, value, Option.filter_some, if_pos (by simp [low, high])]

theorem asCount_ofInt {n : Nat} (high : n ≤ Text.maxLong) : asCount (.ofInt n) = some n := by
  obtain ⟨number, same, value⟩ := toInt?_ofInt n
  rw [same, asCount, value, Option.filter_some, if_pos (by simp [high])]
  rfl

/-! ### Parts -/

/-! A part is told at most once. -/

theorem LevelTold.length_le {level : Level} {vs : List Json} (told : LevelTold level vs) :
    vs.length ≤ 1 := by
  cases told with
  | _ => simp

theorem FlagTold.length_le {b : Bool} {vs : List Json} (told : FlagTold b vs) : vs.length ≤ 1 := by
  cases told with
  | _ => simp

theorem TagsTold.length_le {tags : Option String} {vs : List Json} (told : TagsTold tags vs) :
    vs.length ≤ 1 := by
  cases told with
  | _ => simp

theorem TimeTold.length_le {t : Instant} {vs : List Json} (told : TimeTold t vs) :
    vs.length ≤ 1 := by
  cases told with
  | _ => simp

section Parts

variable {fields : List (Json.Text × Json)} {name : String}

/-- Whatever tells a level is read as a text, or none, that stands for it. -/
theorem level_of_told {level : Level} (told : LevelTold level (valuesAt name fields)) :
    ∃ text, (firstValues fields).optional name none (asOptional asText) = some text
      ∧ ∀ raw : RawRecord, raw.level = text → raw.readLevel = .ok level := by
  generalize values : valuesAt name fields = vs at told
  cases told with
  | @named _ s named =>
    refine ⟨some s, optional_eq values, fun raw same => ?_⟩
    have nonempty : s ≠ "" := by
      rintro rfl
      cases level with
      | _ => exact absurd named (by decide)
    rw [RawRecord.readLevel, same]
    simp only [Level.read_of_letters named]
    rfl
  | absent =>
    refine ⟨none, optional_of_nil values, fun raw same => ?_⟩
    rw [RawRecord.readLevel, same]
  | null =>
    refine ⟨none, optional_eq values, fun raw same => ?_⟩
    rw [RawRecord.readLevel, same]
  | empty =>
    refine ⟨some "", optional_eq values, fun raw same => ?_⟩
    rw [RawRecord.readLevel, same]
    rfl

theorem flag_of_told {b : Bool} (told : FlagTold b (valuesAt name fields)) :
    (firstValues fields).optional name false asBool = some b := by
  generalize values : valuesAt name fields = vs at told
  cases told with
  | flag => exact optional_eq values
  | absent => exact optional_of_nil values

/-- Whatever tells the tags is read as a text, or none, that counts for them. -/
theorem tags_of_told {tags : Option String} (told : TagsTold tags (valuesAt name fields)) :
    ∃ text, (firstValues fields).optional name none (asOptional asText) = some text
      ∧ text.filter (!Text.blank ·) = tags := by
  generalize values : valuesAt name fields = vs at told
  cases told with
  | some full => exact ⟨_, optional_eq values, by rw [Option.filter_some, full]; rfl⟩
  | absent => exact ⟨none, optional_of_nil values, rfl⟩
  | null => exact ⟨none, optional_eq values, rfl⟩
  | blank blank => exact ⟨_, optional_eq values, by rw [Option.filter_some, blank]; rfl⟩

theorem time_of_told {t : Instant} (told : TimeTold t (valuesAt name fields)) :
    ∃ text, (firstValues fields).required name asText = some text
      ∧ Timestamp.read text = .ok t := by
  generalize values : valuesAt name fields = vs at told
  obtain ⟨isTold, low, high, writes⟩ := told
  exact ⟨_, required_eq values, Timestamp.read_of_writes isTold low high writes⟩

end Parts

/-! ### Records -/

theorem members_of_toldBy {r : Record} {fields : List (Json.Text × Json)} (told : r.ToldBy fields) :
    (Json.object fields).members RawRecord.names = some (firstValues fields) := by
  refine objectMembers_eq_some_iff.2 ⟨⟨told.named, ?_⟩, rfl⟩
  simp only [RawRecord.names, List.forall_mem_cons, told.id, told.code, told.language,
    told.explanation, told.level.length_le, told.created.length_le, told.isFavorite.length_le,
    told.tags.length_le, List.length_singleton]
  simp

/-- **Fields that tell a record are read as that record.** -/
theorem ofJson_of_toldBy {r : Record} {fields : List (Json.Text × Json)} (told : r.ToldBy fields) :
    ∃ raw, RawRecord.ofJson (.object fields) = some raw ∧ raw.record = .ok r := by
  obtain ⟨level, readsLevel, standsFor⟩ := level_of_told told.level
  obtain ⟨tags, readsTags, countsFor⟩ := tags_of_told told.tags
  obtain ⟨created, readsCreated, instant⟩ := time_of_told told.created
  refine ⟨⟨r.id, r.code, r.language, r.explanation, level, created, r.isFavorite, tags⟩, ?_, ?_⟩
  · rw [RawRecord.ofJson, members_of_toldBy told]
    simp only [bind, Option.bind_some, pure, required_eq told.id, required_eq told.code,
      required_eq told.language, required_eq told.explanation, readsLevel, readsCreated,
      flag_of_told told.isFavorite, readsTags, asSigned_ofInt told.range.1 told.range.2]
    rfl
  · rw [RawRecord.record, standsFor _ rfl, RawRecord.readCreated, instant]
    simp only [countsFor]
    rfl

end Exposition
