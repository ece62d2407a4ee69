import Exposition.Proofs.Command.Effect
import Exposition.Proofs.History.Landing

/-!
# Proofs/Command/OnePage — one page of the history, printed

A command that lists the history asks for page 1 under the filters of its options, since only an
answer tells how many pages there are, and then for the page that is wanted, if there is one.
Against an archive where no request fails, all that passes is therefore a matter of the records that
match, of the page and of its size (`lists_one_page`): what is printed is the text of that page
(`Shows.listing_eq`).
-/

namespace Exposition

open Exposition.Action

/-- **The filters of the options**: the language in lower case, and no text that is blank. -/
theorem HistoryOptions.filters_eq (o : HistoryOptions) : o.filters =
    { language := o.language.bind fun language => Filters.unlessBlank (Text.lowered language)
      level := o.level
      isFavorite := o.isFavorite
      search := o.search.bind Filters.unlessBlank } := by
  obtain ⟨language, level, isFavorite, search, page⟩ := o
  cases language with
  | none => cases search <;> rfl
  | some language => cases search <;> rfl

namespace History

/-! ## The text of a page -/

/-- **The text of a page** of some records: the positions that it shows, the record at each of them
as a card, and where there are other pages the line that leads to them. -/
def pageText (filters : Filters) (matching : List Record) (page size : Nat) : String :=
  let first := (page - 1) * size + 1
  let last := min (page * size) matching.length
  let pages := pagesFor matching.length size
  Text.unlines <|
    if matching.isEmpty then
      "No explanations found." ::
        if filters.isEmpty then [] else ["Try clearing the filters with 'clear'."]
    else
      ("Showing " ++ Text.decimal first ++ "-" ++ Text.decimal last ++ " of " ++
          Text.decimal matching.length ++ " explanations") ::
        ((matching.take last).drop (first - 1)).zipIdx.map (fun (r, i) => r.card (i + 1)) ++
        if 1 < pages then
          [(if 1 < page then "[p]rev" else " prev ") ++ "  Page " ++ Text.decimal page ++ " of " ++
            Text.decimal pages ++ "  " ++ if page < pages then "[n]ext" else " next "]
        else []

variable {σ : Type} [Archive σ]

/-- **A page that is shown is listed as its text**, if it exists. -/
theorem Shows.listing_eq {service : σ} {h : History} (shown : Shows service h)
    (there : h.paging.page ≤ max 1 h.paging.totalPages) :
    h.listing = pageText h.filters (Archive.matching service h.filters) h.paging.page
      h.paging.perPage := by
  have records : h.records = ((Archive.matching service h.filters).take
      (min (h.paging.page * h.paging.perPage) (Archive.matching service h.filters).length)).drop
        ((h.paging.page - 1) * h.paging.perPage) :=
    shown.records.trans (Slice.cut_eq_between _ h.query h.paging.one_le_page)
  have totals := shown.totalCount
  by_cases nothing : Archive.matching service h.filters = []
  · have empty : h.view = .empty := by
      rw [shown.view, records, nothing]
      simp
    rw [listing, listingLines, empty, pageText, nothing]
    rfl
  · have items : h.view = .items := by
      rw [shown.view]
      refine if_neg fun empty => nothing (shown.matching_eq_nil there ?_)
      rw [shown.view, if_pos empty]
    have range : h.range = ((h.paging.page - 1) * h.paging.perPage + 1,
        min (h.paging.page * h.paging.perPage) (Archive.matching service h.filters).length) := by
      rw [History.range, Paging.range, totals, if_neg (mt List.length_eq_zero_iff.1 nothing)]
      rfl
    have some : ¬ (Archive.matching service h.filters).isEmpty := by simpa using nothing
    rw [listing, listingLines, items]
    simp only [pageText, if_neg some, summaryLine, cards, pageLine, Paging.controls,
      Paging.totalPages, range, totals, records, decide_eq_true_eq, Nat.add_sub_cancel]

/-- **A page has come**, cut from the records that match. -/
def came (matching : List Record) (q : Query) : Event := .asked (.list q) (.ok (.cut matching q))

/-- A page that is given has come from the records that match. -/
theorem asked_eq_came {service service' : σ} {q : Query} {slice : Slice}
    (answered : Service.answer (.list q) service = (.ok slice, service')) :
    Event.asked (.list q) (.ok slice) = came (Archive.matching service q.filters) q := by
  rw [(Archive.of_listed answered).1]
  rfl

/-- A history that has loaded a page knows how many there are. -/
theorem Loaded.totalPages {service service' : σ} {h h' : History}
    (loaded : Loaded service h service' h') : h'.paging.totalPages
      = pagesFor (Archive.matching service h.query.filters).length h.query.perPage := by
  rw [Paging.totalPages, loaded.shown.totalCount, loaded.filters, loaded.perPage,
    Archive.matching_congr loaded.records]
  rfl

/-- **A page that was loaded is listed as its text**, if it exists. -/
theorem Loaded.listing_eq {service service' : σ} {h h' : History} {q : Query} (query : h.query = q)
    (loaded : Loaded service h service' h')
    (there : q.page ≤ max 1 (pagesFor (Archive.matching service q.filters).length q.perPage)) :
    h'.listing
      = pageText q.filters (Archive.matching service q.filters) q.page q.perPage := by
  subst query
  have there' : h'.paging.page ≤ max 1 h'.paging.totalPages := by
    rw [loaded.page, loaded.totalPages]
    exact there
  rw [loaded.shown.listing_eq there', loaded.filters, loaded.page, loaded.perPage,
    Archive.matching_congr loaded.records]
  rfl

end History

namespace Command

variable {σ : Type} [Archive σ] {surroundings : Surroundings} {o : HistoryOptions}

/-- **Going on to another page of an archive**: either the request fails, or the page has come. -/
theorem goOn_at_archive (s : Session σ History) (events : List Event) {service : σ} {h : History}
    {q : Query} (query : (h.atPage o.page).query = q) (later : 1 < o.page)
    (there : o.page ≤ h.paging.totalPages)
    (exist : q.page ≤ pagesFor (Archive.matching service q.filters).length q.perPage) :
    ∃ service' h' more,
      let s' := s.after service' h' (events ++ more)
      (¬ Smooth more ∧ ∃ e, goOn o.page (s.after service h events) = (.error e, s'))
      ∨ goOn o.page (s.after service h events) = (.ok (true, h'), s')
        ∧ more = [History.came (Archive.matching service q.filters) q]
        ∧ h'.listing
          = History.pageText q.filters (Archive.matching service q.filters) q.page q.perPage := by
  rcases answered : Service.answer (.list (h.atPage o.page).query) service
    with ⟨e | slice, service'⟩
  · refine ⟨_, _, _, .inl ⟨?_, e, goOn_of_page later there answered⟩⟩
    exact Smooth.not_error (List.mem_cons_self ..)
  · have loaded := History.Loaded.of_listed answered
    refine ⟨_, _, _, .inr ⟨goOn_of_page later there answered, ?_, ?_⟩⟩
    · rw [History.pageEvents, History.asked_eq_came answered, query]
      rfl
    · exact loaded.listing_eq query (Nat.le_trans exist (Nat.le_max_right _ _))

/-- **Loading the page of an archive**, with one request for page 1 and one for the page that is
wanted, if there is such a page and it is another.  Either a request fails, or the outcome is a
matter of the records that match. -/
theorem loadPage_at_archive {s : Session σ History} {size : Nat} {filters : Filters}
    (query : (s.state.withFilters o.filters).query = ⟨1, size, filters⟩) (first : 1 ≤ o.page)
    (most : o.page ≤ Text.maxWord) :
    let matching := Archive.matching s.service filters
    let pages := pagesFor matching.length size
    let came (page : Nat) : Event := History.came matching ⟨page, size, filters⟩
    ∃ service h events,
      let s' := s.after service h events
      (¬ Smooth events ∧ ∃ e, loadPage o s = (.error e, s'))
      ∨ ((o.page = 1 ∨ o.page ≤ pages) ∧ loadPage o s = (.ok (true, h), s')
        ∧ events = (if 1 < o.page then [came 1, came o.page] else [came 1])
        ∧ h.listing = History.pageText filters matching o.page size)
      ∨ (¬ (o.page = 1 ∨ o.page ≤ pages) ∧ loadPage o s = (.ok (false, h), s')
        ∧ events = [came 1] ∧ h.paging.totalPages = pages) := by
  intro matching pages came
  rcases answered : Service.answer (.list (s.state.withFilters o.filters).query) s.service
    with ⟨e | slice, service⟩
  · exact ⟨_, _, _, .inl ⟨Smooth.not_error (List.mem_cons_self ..), e, loadPage_error answered⟩⟩
  let h := (s.state.withFilters o.filters).received (.ok slice)
  have loaded : History.Loaded s.service (s.state.withFilters o.filters) service h :=
    .of_listed answered
  have goesOn : loadPage o s = goOn o.page (s.after service h [came 1]) := by
    rw [loadPage_ok answered, History.asked_eq_came answered, query]
  have totals : h.paging.totalPages = pages := by
    rw [loaded.totalPages, query]
  by_cases later : 1 < o.page
  · by_cases there : o.page ≤ pages
    · have query' : (h.atPage o.page).query = ⟨o.page, size, filters⟩ := by
        rw [History.query_atPage first most, loaded.query, query]
      have same : Archive.matching service filters = matching :=
        Archive.matching_congr loaded.records filters
      obtain ⟨service', h', more, arrives⟩ :=
        goOn_at_archive s [came 1] query' later (totals ▸ there) (by rwa [same])
      refine ⟨service', h', came 1 :: more, ?_⟩
      rw [if_pos later, goesOn]
      obtain ⟨fails, e, ends⟩ | ⟨ends, rfl, listing⟩ := arrives
      · exact .inl ⟨fun smooth => fails fun e mem => smooth e (List.mem_cons_of_mem _ mem), e, ends⟩
      · exact .inr (.inl ⟨.inr there, ends, by rw [same], by rw [listing, same]⟩)
    · have missing := goOn_of_missing (s := s.after service h [came 1]) later
        (by rwa [Session.after_state, totals, ← Nat.not_le])
      exact ⟨service, h, [came 1], .inr (.inr ⟨by omega, goesOn.trans missing, rfl, totals⟩)⟩
  · obtain page : o.page = 1 := by omega
    have listing := loaded.listing_eq query (Nat.le_max_left _ _)
    refine ⟨service, h, [came 1], .inr (.inl ⟨.inl page, goesOn.trans (goOn_of_first later), ?_⟩)⟩
    rw [if_neg later, page]
    exact ⟨rfl, listing⟩

/-- **A command lists one page.**  At an archive where no request fails, and with `matching` for the
records that the filters of the options let through, page 1 is asked for under these filters, and
another page after it if that exists; a page exists if the records before it do not use up all that
match.  Page 1 and every page that exists is printed as its text, with a card for each of the
matching records from its first to its last position; without the page nothing is printed, and the
error tells how many pages there are. -/
theorem lists_one_page (s : Session σ Unit) (first : 1 ≤ o.page) (most : o.page ≤ Text.maxWord)
    (smooth : Smooth (s.since (listHistory surroundings o s).2)) :
    let size := min (max surroundings.pageSize 1) largestPageSize
    let filters : Filters :=
      { language := o.language.bind fun language => Filters.unlessBlank (Text.lowered language)
        level := o.level
        isFavorite := o.isFavorite
        search := o.search.bind Filters.unlessBlank }
    let matching := Archive.matching s.service filters
    let pages := pagesFor matching.length size
    let came (page : Nat) : Event := History.came matching ⟨page, size, filters⟩
    let listed := listHistory surroundings o s
    (o.page ≤ pages ↔ (o.page - 1) * size < matching.length)
    ∧ if o.page = 1 ∨ (o.page - 1) * size < matching.length then
        listed.1 = .ok ()
        ∧ s.since listed.2 = (if 1 < o.page then [came 1, came o.page] else [came 1])
            ++ [.printed (History.pageText filters matching o.page size)]
      else
        listed.1 = .error (.refused (.noPage o.page pages))
        ∧ listed.1.mapError CommandError.message
          = .error ("An unexpected internal error occurred: " ++ ("page " ++ Text.decimal o.page ++
              " does not exist (there are " ++ Text.decimal pages ++ " pages)"))
        ∧ s.since listed.2 = [came 1] := by
  intro size filters matching pages came listed
  have exists_iff : o.page ≤ pages ↔ (o.page - 1) * size < matching.length :=
    le_pagesFor_iff (by simp only [size, largestPageSize]; omega) first most
  refine ⟨exists_iff, ?_⟩
  have query : ((History.start surroundings.pageSize).withFilters o.filters).query
      = ⟨1, size, filters⟩ := by
    rw [show filters = o.filters from o.filters_eq.symm]
    rfl
  obtain ⟨service, h, events, ⟨fails, e, ends⟩ | ⟨there, ends, rfl, listing⟩
    | ⟨missing, ends, rfl, totals⟩⟩ := loadPage_at_archive
      (s := s.withState (.start surroundings.pageSize)) query first most
  · rw [listHistory_error ends, Session.since_after] at smooth
    exact absurd smooth fails
  · rw [if_pos (there.imp_right exists_iff.1), show listed = _ from listHistory_of_found ends,
      Session.since_after, listing]
    exact ⟨rfl, rfl⟩
  · rw [if_neg (mt (Or.imp_right exists_iff.2) missing),
      show listed = _ from listHistory_of_missing ends, Session.since_after, totals]
    exact ⟨rfl, rfl, rfl⟩

/-! The second page of those records of a store that are in one language. -/

/-- Five records, the second of them in another language than the others. -/
def fiveRecords : Session Store Unit where
  service.records := [(5, "python"), (4, "rust"), (3, "python"), (2, "python"), (1, "python")].map
    fun r => ⟨r.1, "", r.2, .beginner, "", false, ⟨0, 0⟩, none⟩
  state := ()

theorem lists_one_page_of_python :
    let s := fiveRecords
    let o : HistoryOptions := { language := some "PYTHON", search := some " ", page := 2 }
    let listed := listHistory { pageSize := 3 } o s
    let filters : Filters := { language := some "python" }
    let matching := Archive.matching s.service filters
    (1 ≤ o.page ∧ o.page ≤ Text.maxWord ∧ Smooth (s.since listed.2))
    ∧ listed.1 = .ok ()
    ∧ s.since listed.2 = [History.came matching ⟨1, 3, filters⟩,
        History.came matching ⟨2, 3, filters⟩, .printed (History.pageText filters matching 2 3)]
    ∧ matching.map (·.id) = [5, 3, 2, 1] := by
  intro s o listed filters matching
  have smooth : Smooth (s.since listed.2) := by decide
  have same : o.filters = filters := by decide
  obtain ⟨-, ends⟩ := lists_one_page s (by decide) (by decide) smooth
  rw [← o.filters_eq, same, if_pos (by decide)] at ends
  exact ⟨⟨by decide, by decide, smooth⟩, ends.1, ends.2, by decide⟩

end Command

end Exposition
