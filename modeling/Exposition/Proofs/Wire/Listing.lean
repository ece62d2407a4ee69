import Exposition.Proofs.Each
import Exposition.Proofs.Wire.Record

/-!
# Proofs/Wire/Listing — a page is read in full or not at all

A page that tells a slice (`Slice.ToldBy`) is read as that slice, record by record
(`readList_of_toldBy`).  One flawed item is enough for the whole page to make no sense, whatever the
other items are: nothing is read of it, or the answer is an error (`answer_of_flawed`).
-/

namespace Exposition

open Json

/-! ## Pages -/

/-- **The fields that tell a slice**: success, the records in their order, and the total. -/
structure Slice.ToldBy (slice : Slice) (fields : List (Json.Text × Json)) : Prop where
  named : ∀ f ∈ fields, f.1.isSome
  success : valuesAt "success" fields = [.bool true]
  records : ∃ items, valuesAt "explanations" fields = [.array (items.map .object)]
    ∧ List.Forall₂ Record.ToldBy slice.records items
  range : slice.totalCount ≤ Text.maxLong
  total : valuesAt "total_count" fields = [.ofInt slice.totalCount]

/-- The items that tell some records are read as what stands for them. -/
theorem exists_raws {records : List Record} {items : List (List (Json.Text × Json))}
    (each : List.Forall₂ Record.ToldBy records items) : ∃ raws,
      (items.map Json.object).mapM RawRecord.ofJson = some raws
      ∧ raws.mapM RawRecord.record = .ok records := by
  have pairs : ∃ raws, List.Forall₂ (fun item raw => RawRecord.ofJson item = some raw)
      (items.map Json.object) raws
      ∧ List.Forall₂ (fun raw r => raw.record = .ok r) raws records := by
    induction each with
    | nil => exact ⟨[], .nil, .nil⟩
    | cons told _ ih =>
      obtain ⟨raw, read, stands⟩ := ofJson_of_toldBy told
      obtain ⟨raws, reads, all⟩ := ih
      exact ⟨raw :: raws, .cons read reads, .cons stands all⟩
  obtain ⟨raws, reads, all⟩ := pairs
  exact ⟨raws, mapM_of_forall₂ reads, mapM_of_forall₂ all⟩

/-- **A page that tells a slice is read as that slice.** -/
theorem readList_of_toldBy {slice : Slice} {fields : List (Json.Text × Json)}
    (told : slice.ToldBy fields) : readList (.object fields) = some ⟨true, .ok slice⟩ := by
  obtain ⟨items, values, each⟩ := told.records
  obtain ⟨raws, reads, stand⟩ := exists_raws each
  have members : (Json.object fields).members ["success", "explanations", "total_count"]
      = some (firstValues fields) := by
    refine objectMembers_eq_some_iff.2 ⟨⟨told.named, ?_⟩, rfl⟩
    simp [told.success, values, told.total]
  rw [readList, members]
  simp only [bind, Option.bind_some, pure, required_eq told.success, required_eq values,
    required_eq told.total, asBool, asList, reads, asCount_ofInt told.range]
  rw [stand]
  rfl

/-! ## Flawed items -/

/-- **An item that spoils a page**: it is no record at all, since a part is missing or is not what
it must be, or its level or its time makes no sense. -/
inductive Flawed : Json → Prop
  | lacks {fields : List (Json.Text × Json)} {name : String} :
    name ∈ ["id", "code_snippet", "language", "explanation", "created_at"] →
    valuesAt name fields = [] → Flawed (.object fields)
  | shapeless {v : Json} : ¬ RawRecord.shape v → Flawed v
  | level {fields : List (Json.Text × Json)} {text : String} :
    valuesAt "complexity_level" fields = [.ofString text] → text ≠ "" →
    (∀ level : Level, Text.lowered (Text.trimmed text) ≠ level.name) → Flawed (.object fields)
  | time {fields : List (Json.Text × Json)} {text : String} :
    valuesAt "created_at" fields = [.ofString text] →
    (∀ t, Timestamp.read text ≠ .ok t) → Flawed (.object fields)

/-- What is read of an object as a record. -/
theorem values_of_ofJson {fields : List (Json.Text × Json)} {raw : RawRecord}
    (read : RawRecord.ofJson (.object fields) = some raw) :
    (firstValues fields).optional "complexity_level" none (asOptional asText) = some raw.level
      ∧ (firstValues fields).required "created_at" asText = some raw.created := by
  obtain ⟨m, members, read⟩ := Option.bind_eq_some_iff.1 read
  obtain ⟨-, rfl⟩ := objectMembers_eq_some_iff.1 members
  simp only [bind, Option.bind_eq_some_iff, pure, Option.some.injEq] at read
  obtain ⟨_, -, _, -, _, -, _, -, level, readsLevel, created, readsCreated, _, -, _, -, rfl⟩ := read
  exact ⟨readsLevel, readsCreated⟩

theorem unexpected_of_mapError {α ε : Type} {x : Except ε α} {f : ε → String} {e : ServiceError}
    (failed : x.mapError (fun flaw => ServiceError.unexpected (f flaw)) = .error e) :
    ∃ detail, e = .unexpected detail := by
  cases x with
  | ok a => exact absurd failed (by simp [Except.mapError])
  | error flaw => exact ⟨f flaw, (Except.error.inj failed).symm⟩

/-- Whatever makes no sense in a record is reported as an answer that makes none. -/
theorem unexpected_of_record {raw : RawRecord} {e : ServiceError} (failed : raw.record = .error e) :
    ∃ detail, e = .unexpected detail := by
  rw [RawRecord.record] at failed
  cases level : raw.readLevel with
  | error e' =>
    rw [level] at failed
    obtain rfl : e' = e := Except.error.inj failed
    rw [RawRecord.readLevel] at level
    split at level
    · exact absurd level (by simp)
    · exact absurd level (by simp)
    · exact unexpected_of_mapError level
  | ok l =>
    cases created : raw.readCreated with
    | error e' =>
      rw [level, created] at failed
      obtain rfl : e' = e := Except.error.inj failed
      exact unexpected_of_mapError created
    | ok t =>
      rw [level, created] at failed
      exact absurd failed (by simp [bind, Except.bind, pure, Except.pure])

theorem record_of_level {raw : RawRecord} {text : String} (same : raw.level = some text)
    (nonempty : text ≠ "")
    (unknown : ∀ level : Level, Text.lowered (Text.trimmed text) ≠ level.name) :
    ∃ e, raw.record = .error e := by
  have none : Level.all.find? (·.name == Text.lowered (Text.trimmed text)) = none :=
    List.find?_eq_none.2 fun level _ => by simpa using (unknown level).symm
  have failed : ∃ e, raw.readLevel = .error e := by
    rw [RawRecord.readLevel, same]
    split
    · next absent => exact absurd absent (by simp)
    · next empty => exact absurd (Option.some.inj empty) nonempty
    · next text' given =>
      obtain rfl := Option.some.inj given
      rw [Level.read]
      simp only [none]
      exact ⟨_, rfl⟩
  obtain ⟨e, failed⟩ := failed
  refine ⟨e, ?_⟩
  rw [RawRecord.record, failed]
  rfl

theorem record_of_created {raw : RawRecord} (unreadable : ∀ t, Timestamp.read raw.created ≠ .ok t) :
    ∃ e, raw.record = .error e := by
  cases level : raw.readLevel with
  | error e => exact ⟨e, by rw [RawRecord.record, level]; rfl⟩
  | ok l =>
    cases created : Timestamp.read raw.created with
    | ok t => exact absurd created (unreadable t)
    | error flaw =>
      have failed : ∃ e, raw.readCreated = .error e := by
        rw [RawRecord.readCreated, created]
        exact ⟨_, rfl⟩
      obtain ⟨e, failed⟩ := failed
      refine ⟨e, ?_⟩
      rw [RawRecord.record, level, failed]
      rfl

/-- A part that a record must have. -/
theorem not_shape_of_lacks {fields : List (Json.Text × Json)} {name : String}
    (known : name ∈ ["id", "code_snippet", "language", "explanation", "created_at"])
    (lacks : valuesAt name fields = []) : ¬ RawRecord.shape (.object fields) := by
  rintro ⟨-, each⟩
  simp only [List.forall_mem_cons] at each
  simp only [List.mem_cons, List.not_mem_nil, or_false] at known
  obtain ⟨id, code, language, explanation, -, created, -⟩ := each
  rcases known with rfl | rfl | rfl | rfl | rfl
  · exact absurd (lacks ▸ id) (by simp [Shape.Part.Admits, Shape.must])
  · exact absurd (lacks ▸ code) (by simp [Shape.Part.Admits, Shape.must])
  · exact absurd (lacks ▸ language) (by simp [Shape.Part.Admits, Shape.must])
  · exact absurd (lacks ▸ explanation) (by simp [Shape.Part.Admits, Shape.must])
  · exact absurd (lacks ▸ created) (by simp [Shape.Part.Admits, Shape.must])

/-- A flawed item that is read as a record at all is one that makes no sense. -/
theorem record_of_flawed {v : Json} {raw : RawRecord} (flawed : Flawed v)
    (read : RawRecord.ofJson v = some raw) : ∃ e, raw.record = .error e := by
  have shape : RawRecord.shape v := (reads_record v).1 (read ▸ rfl)
  cases flawed with
  | lacks known lacks => exact absurd shape (not_shape_of_lacks known lacks)
  | shapeless other => exact absurd shape other
  | level values nonempty unknown =>
    obtain ⟨level, -⟩ := values_of_ofJson read
    rw [optional_eq values] at level
    exact record_of_level (Option.some.inj level).symm nonempty unknown
  | time values unreadable =>
    obtain ⟨-, created⟩ := values_of_ofJson read
    rw [required_eq values] at created
    exact record_of_created fun t => Option.some.inj created ▸ unreadable t

/-- **One flawed item spoils the page**: if the page is read at all, its answer is an error. -/
theorem answer_of_flawed {fields : List (Json.Text × Json)} {items : List Json} {v : Json}
    (page : (some "explanations", .array items) ∈ fields) (mem : v ∈ items) (flawed : Flawed v)
    {content : Content Slice} (read : readList (.object fields) = some content) :
    ∃ detail, content.answer = .error (.unexpected detail) := by
  obtain ⟨m, members, read⟩ := Option.bind_eq_some_iff.1 read
  obtain ⟨⟨-, once⟩, rfl⟩ := objectMembers_eq_some_iff.1 members
  have values : valuesAt "explanations" fields = [.array items] :=
    valuesAt_of_mem page (once _ (by simp))
  simp only [bind, Option.bind_eq_some_iff, pure, Option.some.injEq] at read
  obtain ⟨_, -, raws, reads, _, -, rfl⟩ := read
  rw [required_eq values] at reads
  obtain ⟨raw, memRaw, readRaw⟩ := exists_of_mapM reads mem
  obtain ⟨e, failed⟩ := record_of_flawed flawed readRaw
  obtain ⟨raw', -, e', failed', all⟩ := mapM_error_of_mem memRaw failed
  obtain ⟨detail, rfl⟩ := unexpected_of_record failed'
  refine ⟨detail, ?_⟩
  rw [all]
  rfl

end Exposition
