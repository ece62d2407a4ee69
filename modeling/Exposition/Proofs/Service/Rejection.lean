import Exposition.Proofs.Service.Hearing
import Exposition.Proofs.Wire.Shape

/-!
# Proofs/Service/Rejection — when a reported failure is a rejection

An answer says of itself whether the request succeeded, but that is looked at only after the whole
answer was read.  So a reported failure is a rejection exactly if it comes with all that a success
would come with (`rejects_failure_iff`), and an answer that holds nothing but the report of failure
counts as malformed (`failure_unread`).
-/

namespace Exposition

open Json
open Json.Shape (Part)

/-! ## What an answer says of itself -/

section Content

variable {α β : Type} {content : Content β} {b : Bool}

theorem success_of_bind {o : Option α} {f : α → Option (Content β)}
    (read : o.bind f = some content) (each : ∀ a, f a = some content → content.success = b) :
    content.success = b := by
  obtain ⟨a, -, rest⟩ := Option.bind_eq_some_iff.1 read
  exact each a rest

theorem success_of_some {answer : Except ServiceError β}
    (read : some (Content.mk b answer) = some content) : content.success = b := by
  obtain rfl := Option.some.inj read
  rfl

/-- A reader that looks first at whether the request succeeded, and tells that of the content. -/
theorem told_of_bind {names : List String} {v : Json} {rest : Members → Bool → Option (Content β)}
    (read : ((v.members names).bind fun m => (m.required "success" asBool).bind (rest m))
      = some content)
    (each : ∀ m b, rest m b = some content → content.success = b) :
    ∃ m, v.members names = some m ∧ m.required "success" asBool = some content.success := by
  obtain ⟨m, members, read⟩ := Option.bind_eq_some_iff.1 read
  obtain ⟨b, told, read⟩ := Option.bind_eq_some_iff.1 read
  exact ⟨m, members, each m b read ▸ told⟩

end Content

theorem told_of_readMessage {v : Json} {content : Content String}
    (read : readMessage v = some content) : ∃ m, v.members ["success", "message"] = some m
      ∧ m.required "success" asBool = some content.success :=
  told_of_bind read fun _ _ read => success_of_bind read fun _ read => success_of_some read

/-- Whether a request succeeded is read from the part of its answer that says so. -/
theorem Request.told_of_readContent {r : Request} (enveloped : r.isEnveloped) {v : Json}
    {content : Content r.Answer} (read : r.readContent v = some content) :
    ∃ m, v.members (r.allParts.map Part.name) = some m
      ∧ m.required "success" asBool = some content.success := by
  cases r with
  | list query =>
    exact told_of_bind read fun _ _ read =>
      success_of_bind read fun _ read => success_of_bind read fun _ read => success_of_some read
  | mark id isFavorite => exact told_of_readMessage read
  | delete id =>
    obtain ⟨message, held, rfl⟩ := Option.map_eq_some_iff.1 read
    exact told_of_readMessage held
  | explain snippet =>
    exact told_of_bind read fun _ _ read =>
      success_of_bind read fun _ read => success_of_bind read fun _ read =>
      success_of_bind read fun _ read => success_of_bind read fun _ read => success_of_some read
  | health => exact absurd enveloped (by decide)
  | _ =>
    exact told_of_bind read fun _ _ read => success_of_bind read fun _ read => success_of_some read

/-- **What an answer says of itself is taken as it is said.** -/
theorem Request.success_of_readContent {r : Request} (enveloped : r.isEnveloped)
    {fields : List (Json.Text × Json)} {content : Content r.Answer}
    (read : r.readContent (.object fields) = some content) {b : Bool}
    (said : (some "success", .bool b) ∈ fields) : content.success = b := by
  obtain ⟨m, members, told⟩ := told_of_readContent enveloped read
  obtain ⟨⟨-, once⟩, rfl⟩ := objectMembers_eq_some_iff.1 members
  have known : "success" ∈ r.allParts.map Part.name := by
    rw [allParts, if_pos enveloped]
    exact List.mem_cons_self
  have value : valuesAt "success" fields = [.bool b] := valuesAt_of_mem said (once _ known)
  rw [required_eq value] at told
  exact (Option.some.inj told).symm

namespace Remote

variable {ν : Type} [Http.Network ν] {s : Remote ν} {r : Request} {url : Url}
  {response : Http.Response} {fields : List (Json.Text × Json)}

/-- **A reported failure is a rejection exactly if it comes with everything that a success would
come with.** -/
theorem rejects_failure_iff (enveloped : r.isEnveloped) (heard : s.Hears r url response)
    (success : Http.isSuccess response.status) (complete : response.isComplete)
    (body : Json.read response.body = some (.object fields))
    (failure : (some "success", .bool false) ∈ fields) :
    (∃ detail, (Service.answer r s).1 = .error (.rejected detail)) ↔ r.shape (.object fields) := by
  rw [answer_of_hears heard, r.replyOf_of_success url success complete, Request.readBody, body,
    Option.bind_some, ← reads_content r]
  cases read : r.readContent (.object fields) with
  | none => simp [malformedBody]
  | some content =>
    have failed := Request.success_of_readContent enveloped read failure
    simp [Request.replyOfContent, failed]

/-- The report of failure comes with an empty page. -/
theorem rejects_failure_iff_of_empty_page : ∃ detail,
    (Service.answer (.list ⟨1, 12, {}⟩) (telling (.ofFields [("success", .bool false),
      ("explanations", .array []), ("total_count", .ofInt 0)]))).1 = .error (.rejected detail) := by
  obtain ⟨url, heard⟩ := hears_telling (.ofFields [("success", .bool false),
    ("explanations", .array []), ("total_count", .ofInt 0)]) (.list ⟨1, 12, {}⟩)
  have shape := (reads_content (.list ⟨1, 12, {}⟩) (.ofFields [("success", .bool false),
    ("explanations", .array []), ("total_count", .ofInt 0)])).1 rfl
  exact (rejects_failure_iff rfl heard rfl rfl (read_written (by decide)) (.head _)).2 shape

/-- **An answer that reports failure and nothing else is not rejected**, but counts as malformed. -/
theorem failure_unread : ∃ url response fields,
    (telling (.ofFields [("success", .bool false)])).Hears .stats url response
      ∧ Http.isSuccess response.status = true ∧ response.isComplete = true
      ∧ Json.read response.body = some (.object fields) ∧ (some "success", .bool false) ∈ fields
      ∧ ¬ ∃ detail, (Service.answer .stats (telling (.ofFields [("success", .bool false)]))).1
        = .error (.rejected detail) := by
  obtain ⟨url, heard⟩ := hears_telling (.ofFields [("success", .bool false)]) .stats
  have body := read_written (v := .ofFields [("success", .bool false)]) (by decide)
  refine ⟨url, _, _, heard, rfl, rfl, body, .head _, ?_⟩
  rw [answer_of_hears heard, Request.replyOf_of_success _ _ rfl rfl, Request.readBody, body]
  rintro ⟨detail, same⟩
  cases same

end Remote

end Exposition
