import Exposition.Json.Members
import Exposition.Json.Writer
import Exposition.Service
import Exposition.Time.Timestamp

/-!
# Wire/Body — requests and answers as JSON

What the service sends back for each request, as JSON of a known shape, and what is sent along with
a request.  All answers but that on the service's health come in an **envelope**, which says whether
the request succeeded.  Reading goes by two steps: the body has the shape (`Request.readBody`), or
it is malformed as a whole; then the values in it make sense, or they are a `ServiceError`.
-/

namespace Exposition

open Json

/-! ## Records -/

/-- A record as it is sent: level and time are texts that may not make sense. -/
structure RawRecord where
  id : Int
  code : String
  language : String
  explanation : String
  level : Option String
  created : String
  isFavorite : Bool
  tags : Option String
deriving DecidableEq, Repr

namespace RawRecord

/-- The names of the values of a record. -/
def names : List String :=
  ["id", "code_snippet", "language", "explanation", "complexity_level", "created_at", "is_favorite",
    "tags"]

/-- The record that a value holds. -/
def ofJson (v : Json) : Option RawRecord := do
  let m ← v.members names
  return {
    id := ← m.required "id" asSigned
    code := ← m.required "code_snippet" asText
    language := ← m.required "language" asText
    explanation := ← m.required "explanation" asText
    level := ← m.optional "complexity_level" none (asOptional asText)
    created := ← m.required "created_at" asText
    isFavorite := ← m.optional "is_favorite" false asBool
    tags := ← m.optional "tags" none (asOptional asText) }

/-- The level of a record; an absent or empty one stands for the level that nobody chose. -/
def readLevel (r : RawRecord) : Except ServiceError Level :=
  match r.level with
  | none => .ok default
  | some "" => .ok default
  | some text =>
    (Level.read text).mapError fun e =>
      .unexpected ("record " ++ Text.decimalInt r.id ++ ": " ++ e.message)

/-- The time at which a record was made. -/
def readCreated (r : RawRecord) : Except ServiceError Instant :=
  (Timestamp.read r.created).mapError fun flaw =>
    .unexpected ("invalid timestamp '" ++ r.created ++ "': " ++ flaw.message)

/-- **The record that was sent**; blank tags are none. -/
def record (r : RawRecord) : Except ServiceError Record := do
  let level ← r.readLevel
  let created ← r.readCreated
  return {
    id := r.id
    code := r.code
    language := r.language
    level
    explanation := r.explanation
    isFavorite := r.isFavorite
    created
    tags := r.tags.filter (!Text.blank ·) }

end RawRecord

/-! ## Bodies -/

/-- The content of an answer: whether the request succeeded, and the answer that it makes. -/
structure Content (α : Type) where
  success : Bool
  answer : Except ServiceError α

/-- A level in an answer. -/
def readSentLevel (s : String) : Except ServiceError Level :=
  (Level.read s).mapError fun e => .unexpected e.message

/-- One page of the history. -/
def readList (v : Json) : Option (Content Slice) := do
  let m ← v.members ["success", "explanations", "total_count"]
  let success ← m.required "success" asBool
  let raws ← m.required "explanations" (asList RawRecord.ofJson)
  let totalCount ← m.required "total_count" asCount
  return ⟨success, do return ⟨← raws.mapM RawRecord.record, totalCount⟩⟩

/-- One record. -/
def readSingle (v : Json) : Option (Content Record) := do
  let m ← v.members ["success", "explanation"]
  let success ← m.required "success" asBool
  let raw ← m.required "explanation" RawRecord.ofJson
  return ⟨success, raw.record⟩

/-- A message. -/
def readMessage (v : Json) : Option (Content String) := do
  let m ← v.members ["success", "message"]
  let success ← m.required "success" asBool
  let message ← m.optional "message" "" asText
  return ⟨success, .ok message⟩

/-- How often something occurs; what it is stands under the given name. -/
def readTally (name : String) (v : Json) : Option (String × Nat) := do
  let m ← v.members [name, "count"]
  return (← m.required name asText, ← m.required "count" asCount)

/-- Counts over the history. -/
def readCounts (v : Json) : Option Stats := do
  let m ← v.members ["total_explanations", "favorite_explanations", "language_distribution",
    "complexity_distribution"]
  return {
    total := ← m.required "total_explanations" asCount
    favorites := ← m.required "favorite_explanations" asCount
    byLanguage := ← m.optional "language_distribution" [] (asList (readTally "language"))
    byLevel := ← m.optional "complexity_distribution" [] (asList (readTally "complexity")) }

/-- Statistics. -/
def readStats (v : Json) : Option (Content Stats) := do
  let m ← v.members ["success", "stats"]
  let success ← m.required "success" asBool
  let stats ← m.required "stats" readCounts
  return ⟨success, .ok stats⟩

/-- A language on offer. -/
def readLanguage (v : Json) : Option OfferedLanguage := do
  let m ← v.members ["value", "name", "icon"]
  return {
    value := ← m.required "value" asText
    name := ← m.required "name" asText
    icon := ← m.optional "icon" "" asText }

/-- The languages on offer. -/
def readLanguages (v : Json) : Option (Content (List OfferedLanguage)) := do
  let m ← v.members ["success", "languages"]
  let success ← m.required "success" asBool
  let languages ← m.required "languages" (asList readLanguage)
  return ⟨success, .ok languages⟩

/-- A level on offer, in which the level itself may not make sense. -/
def readLevelOption (v : Json) : Option (Except ServiceError OfferedLevel) := do
  let m ← v.members ["value", "name", "description", "icon"]
  let value ← m.required "value" asText
  let name ← m.required "name" asText
  let description ← m.optional "description" "" asText
  let icon ← m.optional "icon" "" asText
  return do return ⟨← readSentLevel value, name, description, icon⟩

/-- The levels on offer. -/
def readLevels (v : Json) : Option (Content (List OfferedLevel)) := do
  let m ← v.members ["success", "complexity_levels"]
  let success ← m.required "success" asBool
  let levels ← m.required "complexity_levels" (asList readLevelOption)
  return ⟨success, levels.mapM id⟩

/-- An explanation. -/
def readExplanation (v : Json) : Option (Content Explanation) := do
  let m ← v.members ["success", "explanation", "language", "complexity_level", "processing_time"]
  let success ← m.required "success" asBool
  let text ← m.required "explanation" asText
  let language ← m.required "language" asText
  let level ← m.required "complexity_level" asText
  let seconds ← m.optional "processing_time" none (asOptional asFloat)
  return ⟨success, do return ⟨text, language, ← readSentLevel level, seconds⟩⟩

/-- The service's health, which comes without an envelope. -/
def readHealth (v : Json) : Option (Content Health) := do
  let m ← v.members ["status", "version", "llm_service_status", "database_status"]
  let status ← m.required "status" asText
  let version ← m.required "version" asText
  let llmService ← m.required "llm_service_status" asText
  let database ← m.required "database_status" asText
  return ⟨true, .ok ⟨status, version, llmService, database⟩⟩

namespace Request

/-- The content that a value holds, in the shape that answers the request. -/
def readContent : (r : Request) → Json → Option (Content r.Answer)
  | .list _, v => readList v
  | .get _, v => readSingle v
  | .mark _ _, v => readMessage v
  | .delete _, v => (readMessage v).map fun c => ⟨c.success, .ok ()⟩
  | .stats, v => readStats v
  | .languages, v => readLanguages v
  | .levels, v => readLevels v
  | .explain _, v => readExplanation v
  | .health, v => readHealth v

/-- The content of a body; none if it is malformed. -/
def readBody (r : Request) (body : List UInt8) : Option (Content r.Answer) :=
  (Json.read body).bind r.readContent

/-- What a request is for, as a report of failure puts it. -/
def purpose : Request → String
  | .list _ => "load history"
  | .get _ => "load the explanation"
  | .mark _ _ => "update the favorite status"
  | .delete _ => "delete the explanation"
  | .stats => "load statistics"
  | .languages => "list languages"
  | .levels => "list complexity levels"
  | .explain _ => "generate an explanation"
  | .health => "report its health"

/-- **The reply that some content makes.**  A reported failure is a rejection. -/
def replyOfContent (r : Request) (content : Content r.Answer) : r.Reply :=
  if content.success then content.answer
  else .error (.rejected ("the backend reported failure to " ++ r.purpose))

/-- What is sent along with a request. -/
def body? : Request → Option Json
  | .mark id isFavorite => some (.ofFields [
      ("explanation_id", .ofInt id),
      ("is_favorite", .bool isFavorite)])
  | .explain snippet => some (.ofFields [
      ("code_snippet", .ofString snippet.code),
      ("language", match snippet.language.tag? with
        | some tag => .ofString tag
        | none => .null),
      ("complexity_level", .ofString snippet.level.name)])
  | _ => none

end Request

end Exposition
