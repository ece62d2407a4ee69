import Exposition.Proofs.Service.Endpoint
import Exposition.Proofs.Text.Numeral
import Exposition.Proofs.Url.Form

/-!
# Proofs/Service/Parameters — the service sees exactly the query

What a request for a page sends after the question mark reads back as the page, the page size and
the filters that have an effect: each of these once, in one order, with its text as it is
(`sends_exactly_the_query`).  So queries share a URL only if they ask for the same, blank filter
texts apart (`Query.effective`).
-/

namespace Exposition

open Text

/-- A level is known by its name. -/
theorem Level.name_inj {level level' : Level} (same : level.name = level'.name) :
    level = level' := by
  have named (l : Level) : Level.all.find? (·.name == l.name) = some l := by
    cases l with
    | _ => rfl
  exact Option.some.inj ((named level).symm.trans (same ▸ named level'))

namespace Filters

/-- **What is sent of some filters**: those that are present and not blank, each at most once and in
this order, with their texts as they are. -/
structure SentAs (f : Filters) (sent : List (String × String)) : Prop where
  order : (sent.map Prod.fst).Sublist ["language", "complexity_level", "is_favorite", "search_term"]
  language : ∀ s, ("language", s) ∈ sent ↔ f.language = some s ∧ blank s = false
  level : ∀ s, ("complexity_level", s) ∈ sent ↔ ∃ level, f.level = some level ∧ s = level.name
  favorite : ∀ s, ("is_favorite", s) ∈ sent ↔
    f.isFavorite = some true ∧ s = "true" ∨ f.isFavorite = some false ∧ s = "false"
  search : ∀ s, ("search_term", s) ∈ sent ↔ f.search = some s ∧ blank s = false

/-- The filters with every blank text lifted. -/
def effective (f : Filters) : Filters :=
  { f with language := f.language.filter (!blank ·), search := f.search.filter (!blank ·) }

/-- At most one value under a name. -/
def optional (name : String) (value : Option String) : List (String × String) :=
  (value.map (name, ·)).toList

theorem mem_optional {name name' s : String} {value : Option String} :
    (name', s) ∈ optional name value ↔ name' = name ∧ value = some s := by
  simp only [optional, Option.mem_toList, Option.map_eq_some_iff, Prod.mk.injEq]
  constructor
  · rintro ⟨t, rfl, rfl, rfl⟩
    exact ⟨rfl, rfl⟩
  · rintro ⟨rfl, rfl⟩
    exact ⟨s, rfl, rfl, rfl⟩

theorem map_fst_optional (name : String) (value : Option String) :
    ((optional name value).map Prod.fst).Sublist [name] := by
  cases value with
  | none => exact List.nil_sublist _
  | some s => exact List.Sublist.refl _

theorem pairs_eq (f : Filters) : f.pairs = optional "language" (f.language.bind unlessBlank)
    ++ optional "complexity_level" (f.level.map Level.name)
    ++ optional "is_favorite" (f.isFavorite.map fun b => if b then "true" else "false")
    ++ optional "search_term" (f.search.bind unlessBlank) := by
  rw [pairs, optional, optional, optional, optional, Option.map_map, Option.map_map]
  rfl

theorem bind_unlessBlank_eq_some_iff {text : Option String} {s : String} :
    text.bind unlessBlank = some s ↔ text = some s ∧ blank s = false := by
  simp only [Option.bind_eq_some_iff, unlessBlank]
  constructor
  · rintro ⟨t, rfl, kept⟩
    split at kept
    · exact absurd kept (by simp)
    · next full =>
      obtain rfl : t = s := Option.some.inj kept
      exact ⟨rfl, by simpa using full⟩
  · rintro ⟨rfl, full⟩
    exact ⟨s, rfl, by simp [full]⟩

/-- **The pairs of a query are what is sent of its filters.** -/
theorem sentAs_pairs (f : Filters) : f.SentAs f.pairs := by
  rw [pairs_eq]
  constructor
  case order =>
    simp only [List.map_append]
    exact (((map_fst_optional _ _).append (map_fst_optional _ _)).append
      (map_fst_optional _ _)).append (map_fst_optional _ _)
  case language =>
    simp [mem_optional, bind_unlessBlank_eq_some_iff]
  case level =>
    simp [mem_optional, eq_comm]
  case favorite =>
    intro s
    rcases f.isFavorite with _ | _ | _
    all_goals simp [mem_optional, eq_comm]
  case search =>
    simp [mem_optional, bind_unlessBlank_eq_some_iff]

theorem filter_blank_eq_some_iff {text : Option String} {s : String} :
    text.filter (!blank ·) = some s ↔ text = some s ∧ blank s = false := by
  rw [Option.filter_eq_some_iff, Bool.not_eq_true']

theorem effective_eq_iff {f f' : Filters} : f.effective = f'.effective ↔
    f.language.filter (!blank ·) = f'.language.filter (!blank ·) ∧ f.level = f'.level
      ∧ f.isFavorite = f'.isFavorite
      ∧ f.search.filter (!blank ·) = f'.search.filter (!blank ·) := by
  rw [effective, effective, Filters.mk.injEq]

/-- Lifting what is blank changes nothing that is sent. -/
theorem pairs_effective (f : Filters) : f.effective.pairs = f.pairs := by
  have lifted (text : Option String) :
      (text.filter (!blank ·)).bind unlessBlank = text.bind unlessBlank := by
    ext s
    simp only [bind_unlessBlank_eq_some_iff, filter_blank_eq_some_iff, and_assoc, and_self]
  rw [pairs_eq, pairs_eq, effective, lifted, lifted]

/-- **The same is sent of two filters** exactly if they differ in blank texts alone. -/
theorem pairs_inj {f f' : Filters} : f.pairs = f'.pairs ↔ f.effective = f'.effective := by
  constructor
  · intro same
    have sent := f.sentAs_pairs
    have sent' := same ▸ f'.sentAs_pairs
    rw [effective_eq_iff]
    refine ⟨?_, ?_, ?_, ?_⟩
    · ext s
      rw [filter_blank_eq_some_iff, filter_blank_eq_some_iff, ← sent.language, ← sent'.language]
    · have there (g : Filters) (level : Level) :
          g.level = some level ↔ ("complexity_level", level.name) ∈ g.pairs := by
        rw [g.sentAs_pairs.level]
        exact ⟨fun h => ⟨level, h, rfl⟩, fun ⟨other, h, name⟩ => Level.name_inj name ▸ h⟩
      ext level
      rw [there, there, same]
    · have there (g : Filters) (b : Bool) :
          g.isFavorite = some b ↔ ("is_favorite", if b then "true" else "false") ∈ g.pairs := by
        rw [g.sentAs_pairs.favorite]
        cases b with
        | false => simp
        | true => simp
      ext b
      rw [there, there, same]
    · ext s
      rw [filter_blank_eq_some_iff, filter_blank_eq_some_iff, ← sent.search, ← sent'.search]
  · intro same
    rw [← f.pairs_effective, same, f'.pairs_effective]

end Filters

namespace Query

/-- The query with every blank filter text lifted. -/
def effective (q : Query) : Query := { q with filters := q.filters.effective }

theorem pairs_inj {q q' : Query} : q.pairs = q'.pairs ↔ q.effective = q'.effective := by
  rw [pairs, pairs, effective, effective, Query.mk.injEq, ← Filters.pairs_inj]
  simp only [List.cons.injEq, Prod.mk.injEq, true_and, decimal_inj]

end Query

namespace Remote

/-- URLs that differ in their queries alone differ in their texts. -/
theorem text_withQuery_inj (url : Url) {query query' : String} :
    (url.withQuery query).text = (url.withQuery query').text ↔ query = query' := by
  have same (query : String) : (url.withQuery query).authority = url.authority := rfl
  rw [Url.text, Url.text, same, same, ← String.toList_inj]
  simp only [Url.withQuery, String.toList_append, List.append_cancel_left_eq,
    List.append_cancel_right_eq, String.toList_inj]

variable {base : Url} {segments : List String}

theorem endpoint_list (rooted : base.path = .segments segments) : ∃ bare : Url, ∀ q : Query,
    endpoint base (.list q) = .ok (bare.withQuery (Url.formEncode q.pairs)) := by
  refine ⟨{ base with
    user := ""
    password := ""
    path := .segments (segments.dropLast ++ ["history", "explanations"])
    fragment := none }, fun q => ?_⟩
  rw [endpoint_eq rooted]
  rfl

/-- **The service sees exactly the query.**  What stands after the question mark of the URL reads
back as page, page size and the filters that have an effect, and URLs are the same exactly if the
queries are, blank filter texts apart. -/
theorem sends_exactly_the_query (rooted : base.path = .segments segments) :
    (∀ q : Query, ∃ url query sent, endpoint base (.list q) = .ok url ∧ url.query = some query
      ∧ Url.formDecode query.toList
        = ("page", decimal q.page) :: ("per_page", decimal q.perPage) :: sent
      ∧ q.filters.SentAs sent
      ∧ (q.filters.isEmpty ↔ sent = []))
    ∧ ∀ q q' : Query,
      (endpoint base (.list q)).map Url.text = (endpoint base (.list q')).map Url.text
        ↔ q.effective = q'.effective := by
  obtain ⟨bare, asks⟩ := endpoint_list rooted
  constructor
  · intro q
    refine ⟨_, _, q.filters.pairs, asks q, rfl, Url.formDecode_formEncode _,
      q.filters.sentAs_pairs, ?_⟩
    rw [Filters.isEmpty, List.isEmpty_iff]
  · intro q q'
    rw [asks, asks]
    change (Except.ok _ : Except ServiceError String) = .ok _ ↔ _
    rw [Except.ok.injEq, text_withQuery_inj, Url.formEncode_inj, Query.pairs_inj]

/-- A search for signs that have a meaning in URLs, under a blank language filter. -/
theorem sends_exactly_the_query_of_signs :
    let base : Url := ⟨"http", "", "", some (.name "h"), none, .segments ["api", ""], none, none⟩
    let q : Query := ⟨2, 12, { language := some " ", search := some " c++ & é=%41#\n" }⟩
    base.path = .segments ["api", ""]
    ∧ ∃ url query sent, endpoint base (.list q) = .ok url ∧ url.query = some query
      ∧ Url.formDecode query.toList = ("page", "2") :: ("per_page", "12") :: sent
      ∧ ("search_term", " c++ & é=%41#\n") ∈ sent ∧ ∀ s, ("language", s) ∉ sent := by
  intro base q
  have rooted : base.path = .segments ["api", ""] := rfl
  obtain ⟨url, query, sent, asked, part, read, exact, -⟩ := (sends_exactly_the_query rooted).1 q
  have page : decimal q.page = "2" := by decide
  have perPage : decimal q.perPage = "12" := by decide
  rw [page, perPage] at read
  refine ⟨rooted, url, query, sent, asked, part, read, (exact.search _).2 ⟨rfl, by decide⟩, ?_⟩
  intro s mem
  obtain ⟨language, full⟩ := (exact.language s).1 mem
  obtain rfl : " " = s := Option.some.inj language
  exact absurd full (by decide)

end Remote

end Exposition
