import Exposition.Proofs.Json.Writing
import Exposition.Proofs.Text.Trim
import Exposition.Service.Remote

/-!
# Proofs/Service/Detail — when an error tells what went wrong

A response without success becomes an error with a detail, and most bodies give one that can be
read: a body that holds no detail stands for itself, and a blank body for a text that says so.  But
a detail that is there is taken as it is.  So an error tells nothing exactly if the body's own
detail says nothing: it is a blank text, or it lists faults of which none has a message, or only one
and that a blank one (`readable_detail_iff`).
-/

namespace Exposition

open Json

/-! ## Texts that can be read -/

/-- **A text that can be read**: there is something visible in it. -/
def Readable (s : String) : Prop := ∃ c ∈ s.toList, Text.isBlank c = false

theorem readable_iff_not_blank {s : String} : Readable s ↔ ¬ Text.blank s := by
  simp [Readable, Text.blank, Text.isBlankText]

instance : DecidablePred Readable := fun _ => decidable_of_iff _ readable_iff_not_blank.symm

/-- Joined texts can be read, unless there is only one that cannot, or none. -/
theorem readable_intercalate_iff {texts : List String} :
    Readable (String.intercalate "; " texts)
      ↔ ¬ (texts = [] ∨ ∃ s, texts = [s] ∧ ¬ Readable s) := by
  match texts with
  | [] => simp [Readable]
  | [s] => simp
  | s :: t :: rest =>
    have separated : Readable (String.intercalate "; " (s :: t :: rest)) := by
      refine ⟨';', ?_, by decide⟩
      rw [String.intercalate_cons_cons]
      simp
    refine iff_of_true separated ?_
    simp

/-- A text that is not blank can be read once it is trimmed. -/
theorem readable_trim {cs : List Char} (filled : ¬ Text.isBlankText cs) :
    Readable (String.ofList (Text.trim cs)) := by
  rw [Readable, String.toList_ofList]
  rcases Text.trim_cases cs with nothing | ⟨front, c, ends, visible⟩
  · exact absurd (Text.trim_eq_nil_iff.1 nothing) filled
  · exact ⟨c, by simp [ends], visible⟩

theorem readable_detailOfText (body : List Char) : Readable (detailOfText body) := by
  rw [detailOfText]
  split
  · decide
  · next filled => exact readable_trim filled

/-! ## Details -/

/-- The message of a fault, if it has one. -/
def fault? (item : Json) : Option String := (item.field? "msg").bind Json.text?

/-- **A detail that says nothing.** -/
inductive SaysNothing : Json → Prop
  | text {s : String} : ¬ Readable s → SaysNothing (.string (some s))
  /-- No fault has a message. -/
  | faults {items : List Json} : (∀ item ∈ items, fault? item = none) → SaysNothing (.array items)
  /-- The only message is blank. -/
  | fault {before after : List Json} {item : Json} {s : String} :
    (∀ other ∈ before ++ after, fault? other = none) → fault? item = some s → ¬ Readable s →
    SaysNothing (.array (before ++ item :: after))

theorem saysNothing_string_iff {s : String} : SaysNothing (.string (some s)) ↔ ¬ Readable s := by
  constructor
  · rintro ⟨blank⟩
    exact blank
  · exact .text

theorem saysNothing_array_iff {items : List Json} : SaysNothing (.array items)
    ↔ items.filterMap fault? = [] ∨ ∃ s, items.filterMap fault? = [s] ∧ ¬ Readable s := by
  constructor
  · intro nothing
    cases nothing with
    | faults none => exact .inl (List.filterMap_eq_nil_iff.2 none)
    | @fault before after item s none told blank =>
      obtain ⟨none, none'⟩ := List.forall_mem_append.1 none
      refine .inr ⟨s, ?_, blank⟩
      rw [List.filterMap_append, List.filterMap_eq_nil_iff.2 none, List.nil_append,
        List.filterMap_cons_some told, List.filterMap_eq_nil_iff.2 none']
  · rintro (none | ⟨s, single, blank⟩)
    · exact .faults (List.filterMap_eq_nil_iff.1 none)
    · obtain ⟨before, item, after, rfl, none, told, rest⟩ := List.filterMap_eq_cons_iff.1 single
      exact .fault (List.forall_mem_append.2 ⟨none, List.filterMap_eq_nil_iff.1 rest⟩) told blank

/-- The detail that an error body holds. -/
def detail? (body : List Char) : Option Json := (errorValue body).bind (·.field? "detail")

/-- **An error body tells what went wrong**, unless its own detail says nothing. -/
theorem readable_complaint_iff (body : List Char) :
    Readable (complaint body) ↔ ∀ detail ∈ detail? body, ¬ SaysNothing detail := by
  rw [complaint]
  split
  · next s held =>
    simp only [detail?, held, Option.mem_some_iff, forall_eq', saysNothing_string_iff, not_not]
  · next items held =>
    simp only [detail?, held, Option.mem_some_iff, forall_eq', saysNothing_array_iff]
    exact readable_intercalate_iff
  · next text faults =>
    refine iff_of_true (readable_detailOfText body) ?_
    intro detail held nothing
    cases nothing with
    | text blank => exact text _ held
    | faults none => exact faults _ held
    | fault none told blank => exact faults _ held

/-! ## Errors -/

/-- **An error that carries a detail**, with the status that it stands for. -/
inductive Carries (status : Nat) (detail : String) : ServiceError → Prop
  | notFound : status = 404 → Carries status detail (.notFound detail)
  | rejected : status = 400 ∨ status = 422 → Carries status detail (.rejected detail)
  | unexpected : status ≠ 404 → ¬ (status = 400 ∨ status = 422) → Carries status detail
    (.unexpected ("backend responded with " ++ Http.statusText status ++ ": " ++ detail))

theorem carries_errorOfStatus (status : Nat) (detail : String) :
    Carries status detail (errorOfStatus status detail) := by
  rw [errorOfStatus]
  split
  · next missing => exact .notFound missing
  · next found =>
    split
    · next refused => exact .rejected refused
    · next other => exact .unexpected found other

/-- **What went wrong can be read exactly unless the body's own detail says nothing**, of every
body; and it is what the error carries, whatever was asked and however it was refused. -/
theorem readable_detail_iff (body : List Char) :
    (Readable (complaint body) ↔ ∀ detail ∈ detail? body, ¬ SaysNothing detail)
      ∧ ∀ (r : Request) (url : Url) (response : Http.Response),
        ¬ Http.isSuccess response.status → errorText response = body →
        ∃ e, r.replyOf url response = .error e ∧ Carries response.status (complaint body) e := by
  refine ⟨readable_complaint_iff body, fun r url response failed text => ?_⟩
  refine ⟨_, ?_, carries_errorOfStatus _ _⟩
  rw [Request.replyOf, if_neg failed, text]

/-- A body that holds an empty list of faults. -/
def faultless : Json := .ofFields [("detail", .array [])]

theorem errorValue_faultless : errorValue faultless.written = some faultless := by
  have read : Json.read (Text.Utf8.encode faultless.written) = some faultless :=
    read_written (by decide)
  rw [errorValue, read]
  rfl

/-- A record is missing, and nothing is said about it. -/
theorem readable_detail_iff_of_missing :
    let response : Http.Response := { status := 404, body := Text.Utf8.encode faultless.written }
    ¬ Http.isSuccess response.status ∧ errorText response = faultless.written
      ∧ (∃ e, (Request.get 7).replyOf ⟨"http", "", "", some (.name "h"), none,
          .segments ["history", "explanations", "7"], none, none⟩ response = .error e
        ∧ Carries 404 (complaint faultless.written) e)
      ∧ ¬ Readable (complaint faultless.written) := by
  intro response
  have missing : ¬ Http.isSuccess response.status := by decide
  have text : errorText response = faultless.written := by
    rw [errorText, if_pos rfl, Text.Utf8.decodeLossy_encode]
  have held : detail? faultless.written = some (.array []) := by
    rw [detail?, errorValue_faultless]
    rfl
  obtain ⟨readable, carried⟩ := readable_detail_iff faultless.written
  refine ⟨missing, text, carried (.get 7) _ response missing text, fun reads => ?_⟩
  exact readable.1 reads _ held (.faults (by simp))

/-- **A detail that is an empty list is taken as it is**, and nothing can be read in it. -/
theorem unreadable_detail : ¬ Readable (complaint "\x7b\"detail\":[]\x7d".toList) := by
  have body : "\x7b\"detail\":[]\x7d".toList = faultless.written := by decide
  rw [body, complaint, errorValue_faultless]
  decide

end Exposition
