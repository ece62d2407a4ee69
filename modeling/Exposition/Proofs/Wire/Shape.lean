import Exposition.Proofs.Json.Shape
import Exposition.Wire.Body

/-!
# Proofs/Wire/Shape — the shapes of answers

What an answer to each request must be like to be read at all (`Request.shape`): which parts it has,
which of them may be absent, and what they hold.  An answer of that shape is read, and no other is
(`reads_content`).
-/

namespace Exposition

open Json
open Json.Members (nil_isSome required_isSome optional_isSome)
open Json.Shape (Part must may)

/-! ## Shapes -/

/-- A record. -/
def RawRecord.shape : Shape := .struct [
  must "id" .signed, must "code_snippet" .text, must "language" .text, must "explanation" .text,
  may "complexity_level" (.orNull .text), must "created_at" .text, may "is_favorite" .truth,
  may "tags" (.orNull .text)]

/-- How often something occurs, which stands under the given name. -/
def tallyShape (name : String) : Shape := .struct [must name .text, must "count" .count]

/-- Counts over the history. -/
def countsShape : Shape := .struct [
  must "total_explanations" .count, must "favorite_explanations" .count,
  may "language_distribution" (.listOf (tallyShape "language")),
  may "complexity_distribution" (.listOf (tallyShape "complexity"))]

/-- A language on offer. -/
def languageShape : Shape := .struct [must "value" .text, must "name" .text, may "icon" .text]

/-- A level on offer. -/
def levelShape : Shape := .struct [
  must "value" .text, must "name" .text, may "description" .text, may "icon" .text]

/-- What comes with the answer to a request, beside whether it succeeded. -/
def Request.parts : Request → List Part
  | .list _ => [must "explanations" (.listOf RawRecord.shape), must "total_count" .count]
  | .get _ => [must "explanation" RawRecord.shape]
  | .mark _ _ => [may "message" .text]
  | .delete _ => [may "message" .text]
  | .stats => [must "stats" countsShape]
  | .languages => [must "languages" (.listOf languageShape)]
  | .levels => [must "complexity_levels" (.listOf levelShape)]
  | .explain _ => [must "explanation" .text, must "language" .text, must "complexity_level" .text,
      may "processing_time" (.orNull .float)]
  | .health => [must "status" .text, must "version" .text, must "llm_service_status" .text,
      must "database_status" .text]

/-- Every answer but that on the service's health says whether the request succeeded. -/
def Request.isEnveloped : Request → Bool
  | .health => false
  | _ => true

/-- All parts of the answer to a request. -/
def Request.allParts (r : Request) : List Part :=
  if r.isEnveloped then must "success" .truth :: r.parts else r.parts

/-- **The shape of the answer to a request.** -/
def Request.shape (r : Request) : Shape := .struct r.allParts

/-! ## Readers -/

theorem reads_record : Reads RawRecord.shape RawRecord.ofJson :=
  reads_struct (by decide) fun _ =>
    required_isSome reads_signed fun _ =>
    required_isSome reads_text fun _ =>
    required_isSome reads_text fun _ =>
    required_isSome reads_text fun _ =>
    optional_isSome (reads_orNull reads_text) fun _ =>
    required_isSome reads_text fun _ =>
    optional_isSome reads_truth fun _ =>
    optional_isSome (reads_orNull reads_text) fun _ => nil_isSome _

theorem reads_tally {name : String} (other : name ≠ "count") :
    Reads (tallyShape name) (readTally name) :=
  reads_struct (by simpa [must] using other) fun _ =>
    required_isSome reads_text fun _ =>
    required_isSome reads_count fun _ => nil_isSome _

theorem reads_counts : Reads countsShape readCounts :=
  reads_struct (by decide) fun _ =>
    required_isSome reads_count fun _ =>
    required_isSome reads_count fun _ =>
    optional_isSome (reads_listOf (reads_tally (by decide))) fun _ =>
    optional_isSome (reads_listOf (reads_tally (by decide))) fun _ => nil_isSome _

theorem reads_language : Reads languageShape readLanguage :=
  reads_struct (by decide) fun _ =>
    required_isSome reads_text fun _ =>
    required_isSome reads_text fun _ =>
    optional_isSome reads_text fun _ => nil_isSome _

theorem reads_level : Reads levelShape readLevelOption :=
  reads_struct (by decide) fun _ =>
    required_isSome reads_text fun _ =>
    required_isSome reads_text fun _ =>
    optional_isSome reads_text fun _ =>
    optional_isSome reads_text fun _ => nil_isSome _

theorem reads_message :
    Reads (.struct [must "success" .truth, may "message" .text]) readMessage :=
  reads_struct (by decide) fun _ =>
    required_isSome reads_truth fun _ =>
    optional_isSome reads_text fun _ => nil_isSome _

theorem Request.allParts_distinct (r : Request) : (r.allParts.map Part.name).Nodup := by
  cases r with
  | _ => simp [allParts, isEnveloped, parts, must, may]

/-- **An answer is read exactly if it is of the shape that the request calls for.** -/
theorem reads_content (r : Request) : Reads r.shape r.readContent := by
  cases r with
  | list q =>
    exact reads_struct (Request.allParts_distinct _) fun _ =>
      required_isSome reads_truth fun _ =>
      required_isSome (reads_listOf reads_record) fun _ =>
      required_isSome reads_count fun _ => nil_isSome _
  | get id =>
    exact reads_struct (Request.allParts_distinct _) fun _ =>
      required_isSome reads_truth fun _ =>
      required_isSome reads_record fun _ => nil_isSome _
  | mark id isFavorite => exact reads_message
  | delete id =>
    intro v
    rw [Request.readContent, Option.isSome_map]
    exact reads_message v
  | stats =>
    exact reads_struct (Request.allParts_distinct _) fun _ =>
      required_isSome reads_truth fun _ =>
      required_isSome reads_counts fun _ => nil_isSome _
  | languages =>
    exact reads_struct (Request.allParts_distinct _) fun _ =>
      required_isSome reads_truth fun _ =>
      required_isSome (reads_listOf reads_language) fun _ => nil_isSome _
  | levels =>
    exact reads_struct (Request.allParts_distinct _) fun _ =>
      required_isSome reads_truth fun _ =>
      required_isSome (reads_listOf reads_level) fun _ => nil_isSome _
  | explain snippet =>
    exact reads_struct (Request.allParts_distinct _) fun _ =>
      required_isSome reads_truth fun _ =>
      required_isSome reads_text fun _ =>
      required_isSome reads_text fun _ =>
      required_isSome reads_text fun _ =>
      optional_isSome (reads_orNull reads_float) fun _ => nil_isSome _
  | health =>
    exact reads_struct (Request.allParts_distinct _) fun _ =>
      required_isSome reads_text fun _ =>
      required_isSome reads_text fun _ =>
      required_isSome reads_text fun _ =>
      required_isSome reads_text fun _ => nil_isSome _

end Exposition
