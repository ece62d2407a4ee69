import Exposition.Service
import Exposition.Text.Numeral

/-!
# Service/Store — a service that keeps its records in memory

A **store** is a list of records, the newest first, and what it offers.  Lists are answered
coherently: the records that match the filters, counted, and cut into pages in store order.  A store
explains nothing of its own and keeps no statistics.
-/

namespace Exposition

/-- A word stands somewhere in a text. -/
def occursIn (word : List Char) : List Char → Bool
  | [] => word.isEmpty
  | c :: cs => word.isPrefixOf (c :: cs) || occursIn word cs

/-- **A record passes the filters.**  A blank filter text lets it through; a search term has to
occur, in this case, in the code or in the explanation. -/
def Filters.admits (f : Filters) (r : Record) : Bool :=
  (f.language.bind Filters.unlessBlank).all (r.language == ·) &&
    f.level.all (r.level == ·) &&
    f.isFavorite.all (r.isFavorite == ·) &&
    (f.search.bind Filters.unlessBlank).all fun term =>
      occursIn term.toList r.code.toList || occursIn term.toList r.explanation.toList

/-- **A store.** -/
structure Store where
  records : List Record
  languages : List OfferedLanguage := []
  levels : List OfferedLevel := []
deriving DecidableEq

namespace Store

/-- The records that pass the filters, in store order. -/
def matching (s : Store) (f : Filters) : List Record := s.records.filter f.admits

/-- **The page that a query asks for.** -/
def page (s : Store) (q : Query) : Slice where
  records := ((s.matching q.filters).drop ((q.page - 1) * q.perPage)).take q.perPage
  totalCount := (s.matching q.filters).length

/-- The answer about a record that the store does not have. -/
def missing (id : Int) : ServiceError :=
  .notFound ("Explanation with ID " ++ Text.decimalInt id ++ " not found")

/-- The records with the first of a number changed by `f`. -/
def updateFirst (id : Int) (f : Record → Record) : List Record → List Record
  | [] => []
  | r :: rs => if r.id = id then f r :: rs else r :: updateFirst id f rs

/-- A record of the store. -/
def find? (s : Store) (id : Int) : Option Record := s.records.find? (·.id == id)

/-- What the store answers. -/
def reply (s : Store) : (r : Request) → r.Reply × Store
  | .list q => (.ok (s.page q), s)
  | .get id =>
    match s.find? id with
    | some r => (.ok r, s)
    | none => (.error (missing id), s)
  | .mark id isFavorite =>
    if (s.find? id).isSome then
      (.ok (if isFavorite then "Explanation added to favorites"
          else "Explanation removed from favorites"),
        { s with records := updateFirst id (fun r => { r with isFavorite }) s.records })
    else (.error (missing id), s)
  | .delete id =>
    if (s.find? id).isSome then (.ok (), { s with records := s.records.eraseP (·.id == id) })
    else (.error (missing id), s)
  | .stats => (.error (.notFound "no stats endpoint"), s)
  | .languages => (.ok s.languages, s)
  | .levels => (.ok s.levels, s)
  | .explain snippet =>
    (.ok ⟨"<p>It prints a number.</p>", snippet.language.tag?.getD "python", snippet.level,
      some (.ofRatio 1 2)⟩, s)
  | .health => (.error (.transport "connection refused"), s)

/-- A store is a service. -/
instance : Service Store where
  answer r s := s.reply r

end Store

end Exposition
