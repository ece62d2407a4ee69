import Exposition.Proofs.History.Effect
import Exposition.Proofs.Service.Hearing
import Exposition.Proofs.Service.Rejection
import Exposition.Proofs.Wire.Telling

/-!
# Proofs/Service/Listing — the page that the service tells is the page that is shown

A slice of the history that comes back as JSON, told in any way and spelled in any way, is answered
as that slice.  If one item is flawed, nothing of the page comes through, and a history that loads
it keeps what it had (`lists_what_is_told`).
-/

namespace Exposition

open Json

namespace Remote

variable {ν : Type} [Http.Network ν] {s : Remote ν} {q : Query} {url : Url}
  {response : Http.Response} {fields : List (Json.Text × Json)} {text : List Char}

/-- **A page comes back in full or not at all.** -/
theorem lists_what_is_told (heard : s.Hears (.list q) url response)
    (success : Http.isSuccess response.status) (complete : response.isComplete)
    (body : response.body = Text.Utf8.encode text) (spells : (Json.object fields).Spells text) :
    (∀ slice : Slice, slice.ToldBy fields → (Service.answer (.list q) s).1 = .ok slice)
    ∧ ∀ items, (some "success", .bool true) ∈ fields →
      (some "explanations", .array items) ∈ fields → (∃ v ∈ items, Flawed v) →
      ∃ detail, (Service.answer (.list q) s).1 = .error (.unexpected detail)
        ∧ ∀ session : Session (Remote ν) History, session.service = s → session.state.query = q →
          (History.load session).1 = .error (.unexpected detail)
          ∧ (History.load session).2.state.records = session.state.records
          ∧ (History.load session).2.state.paging = session.state.paging := by
  have read : Json.read response.body = some (.object fields) := body ▸ read_of_spells spells
  have reply := answer_of_hears heard
  rw [Request.replyOf_of_success _ _ success complete, Request.readBody, read, Option.bind_some]
    at reply
  constructor
  · intro slice told
    rw [reply, Request.readContent, readList_of_toldBy told]
    rfl
  · rintro items ok page ⟨v, mem, flawed⟩
    obtain ⟨detail, failed⟩ : ∃ detail,
        (Service.answer (.list q) s).1 = .error (.unexpected detail) := by
      rw [reply]
      cases content : Request.readContent (.list q) (.object fields) with
      | none => exact ⟨_, rfl⟩
      | some content' =>
        obtain ⟨detail, answer⟩ := answer_of_flawed page mem flawed content
        have succeeded := Request.success_of_readContent rfl content ok
        refine ⟨detail, ?_⟩
        rw [Option.map_some, Option.getD_some, Request.replyOfContent, succeeded, answer]
        rfl
    refine ⟨detail, failed, ?_⟩
    rintro session rfl rfl
    have answered : Service.answer (.list session.state.query) session.service
        = (.error (.unexpected detail), (Service.answer (.list session.state.query)
          session.service).2) := Prod.ext failed rfl
    rw [History.load_apply answered, History.received_error]
    exact ⟨rfl, rfl, rfl⟩

/-- Two records come back as they are; with the time of the second garbled, nothing does. -/
theorem lists_what_is_told_of_two :
    let first : Record := ⟨2, "print(\"é\")", "python", .advanced, "<p>x\n</p>", true,
      ⟨1704207845, 500000000⟩, some "a,b"⟩
    let second : Record := ⟨-1, "", "", .beginner, "\t", false, ⟨-62167219200, 0⟩, none⟩
    let slice : Slice := ⟨[first, second], 18446744073709551615⟩
    let garbled : List (Json.Text × Json) := [(some "success", .bool true),
      (some "explanations", .array [.object first.toFields, .object (second.toFields.set 5
        (some "created_at", .ofString "yesterday"))]), (some "total_count", .ofInt 2)]
    (Service.answer (.list ⟨1, 12, {}⟩) (telling (.object slice.toFields))).1 = .ok slice
    ∧ ∃ detail, (Service.answer (.list ⟨1, 12, {}⟩) (telling (.object garbled))).1
      = .error (.unexpected detail) := by
  intro first second slice garbled
  constructor
  · obtain ⟨url, heard⟩ := hears_telling (.object slice.toFields) (.list ⟨1, 12, {}⟩)
    have sendable : ∀ r ∈ slice.records, r.IsSendable := by
      rw [List.forall_mem_cons, List.forall_mem_singleton]
      exact ⟨⟨by decide, .inl (by decide), by decide, by decide⟩,
        ⟨by decide, .inl (by decide), by decide, by decide⟩⟩
    exact (lists_what_is_told heard rfl rfl rfl (spells_written slice.isWritable_toFields)).1 slice
      (Slice.toldBy_toFields sendable (by decide))
  · obtain ⟨url, heard⟩ := hears_telling (.object garbled) (.list ⟨1, 12, {}⟩)
    have writable : (Json.object garbled).isWritable := by decide
    have unreadable : Timestamp.read "yesterday" = .error .badCharacter := by decide
    have flawed : Flawed (.object (second.toFields.set 5
        (some "created_at", .ofString "yesterday"))) := .time rfl (by simp [unreadable])
    obtain ⟨detail, failed, -⟩ := (lists_what_is_told heard rfl rfl rfl
      (spells_written writable)).2 _ (.head _) (.tail _ (.head _)) ⟨_, .tail _ (.head _), flawed⟩
    exact ⟨detail, failed⟩

end Remote

end Exposition
