import Exposition.Proofs.Archive
import Exposition.Proofs.History.Effect
import Exposition.Proofs.Paging.Pages

/-!
# Proofs/History/Landing — a deletion lands on a page that exists

Against an archive a history **shows** its page once a load has succeeded.  What it shows is empty
exactly when the page lies behind the last one (`Shows.records_eq_nil_iff`), so the test that a
history makes before it leaves a page, on three conditions, comes down to one
(`fallbackPage_eq_none`, `Shows.fallbackPage_eq_some`).  Loading, then leaving the page if it has
vanished, therefore lands on a page that exists, from wherever it starts (`lands`); and so does a
deletion, which ends that way (`discard_lands`, `discard_shows_what_is_left`).
-/

namespace Exposition.History

/-! ## Showing a page -/

/-- The query for another page differs in the page alone. -/
theorem query_atPage {h : History} {page : Nat} (first : 1 ≤ page) (most : page ≤ Text.maxWord) :
    (h.atPage page).query = { h.query with page } := by
  rw [query, atPage, Paging.atPage_page first most]
  rfl

/-- A page that exists is not left. -/
theorem fallbackPage_eq_none {h : History} (there : h.paging.page ≤ max 1 h.paging.totalPages) :
    h.fallbackPage = none := by
  have hpage := h.paging.one_le_page
  simp only [fallbackPage]
  refine if_neg fun vanished => ?_
  simp only [Bool.and_eq_true, decide_eq_true_eq] at vanished
  omega

variable {σ : Type} [Archive σ]

/-- **The list area shows the current page** of the archive. -/
structure Shows (service : σ) (h : History) : Prop where
  records : h.records = (Archive.page service h.query).records
  totalCount : h.paging.totalCount = (Archive.matching service h.filters).length
  view : h.view = if h.records.isEmpty then .empty else .items

namespace Shows

variable {service service' : σ} {h : History} {slice : Slice}

/-- A history shows the page that it asks for once that page has come. -/
theorem of_page (h : History) : Shows service (h.apply (Archive.page service h.query)) :=
  ⟨rfl, rfl, rfl⟩

/-- A history shows the page that it has received. -/
theorem of_listed (answered : Service.answer (.list h.query) service = (.ok slice, service')) :
    Shows service' (h.received (.ok slice)) := by
  obtain ⟨hslice, hrecords⟩ := Archive.of_listed answered
  have hpage : slice = Archive.page service' h.issue.2.query := by
    rw [hslice, ← Archive.page_congr hrecords]
    rfl
  rw [received, settle_ok h.not_issue_late, hpage]
  exact .of_page h.issue.2

/-- **A page is empty exactly when it lies behind the last one.** -/
theorem records_eq_nil_iff (shown : Shows service h) :
    h.records = [] ↔ h.paging.totalPages < h.paging.page := by
  have hsize : 1 ≤ h.query.perPage := h.paging.one_le_perPage
  rw [shown.records, Archive.page, Slice.cut_records_eq_nil_iff hsize, ← Nat.not_le,
    h.paging.page_le_totalPages_iff, shown.totalCount, Nat.not_lt]
  rfl

/-- A page that has vanished is left for the last one. -/
theorem fallbackPage_eq_some (shown : Shows service h)
    (vanished : max 1 h.paging.totalPages < h.paging.page) :
    h.fallbackPage = some (max h.paging.totalPages 1) := by
  have hnil : h.records = [] := shown.records_eq_nil_iff.2 (by omega)
  simp only [fallbackPage, hnil]
  refine if_pos ?_
  simp only [List.isEmpty_nil, Bool.true_and, Bool.and_eq_true, decide_eq_true_eq]
  omega

/-- **On a page that exists, nothing is shown only if there is nothing.** -/
theorem matching_eq_nil (shown : Shows service h)
    (there : h.paging.page ≤ max 1 h.paging.totalPages) (empty : h.view = .empty) :
    Archive.matching service h.filters = [] := by
  have hnil : h.records = [] := by
    rw [shown.view] at empty
    rcases hr : h.records with _ | ⟨r, rs⟩
    · rfl
    · simp [hr] at empty
  have hpage := shown.records_eq_nil_iff.1 hnil
  have hlast : ¬ (1 ≤ h.paging.totalPages) := by omega
  rw [Paging.totalPages, le_pagesFor_iff h.paging.one_le_perPage (Nat.le_refl 1) (by decide)]
    at hlast
  rw [← List.length_eq_zero_iff, ← shown.totalCount]
  omega

end Shows

/-- **The last page of some records** under the filters of a history; page 1 if there is none. -/
def lastPage (σ : Type) [Archive σ] (records : List Record) (h : History) : Nat :=
  max 1 (pagesFor (records.filter (Archive.admits σ h.filters)).length h.paging.perPage)

theorem lastPage_congr {records records' : List Record} {h h' : History} (same : records' = records)
    (filters : h'.filters = h.filters) (perPage : h'.paging.perPage = h.paging.perPage) :
    lastPage σ records' h' = lastPage σ records h := by
  rw [lastPage, lastPage, same, filters, perPage]

/-- A history that shows its page knows the last one. -/
theorem Shows.lastPage_eq {service : σ} {h : History} (shown : Shows service h) :
    lastPage σ (Archive.records service) h = max 1 h.paging.totalPages := by
  rw [Paging.totalPages, shown.totalCount]
  rfl

/-! ## Loading -/

/-- **The page of `h` was loaded**, and `h'` shows it. -/
structure Loaded (service : σ) (h : History) (service' : σ) (h' : History) : Prop where
  records : Archive.records service' = Archive.records service
  shown : Shows service' h'
  query : h'.query = h.query
  selectedId : h'.selectedId = h.selectedId
  issued : h'.issued = h.issued + 1

/-- An answer to a request for a page refreshes the open record, and it is still the same one. -/
theorem selectedId_received (h : History) (slice : Slice) :
    (h.received (.ok slice)).selectedId = h.selectedId := by
  rw [received_ok]
  rcases hs : h.selected with _ | r
  · simp [selectedId, refreshed, hs]
  · rcases hf : slice.records.find? (·.id == r.id) with _ | r'
    · simp [selectedId, refreshed, hs, hf]
    · have hid : r'.id = r.id := by simpa using List.find?_some hf
      simp [selectedId, refreshed, hs, hf, hid]

namespace Loaded

variable {service service' : σ} {h h' : History}

/-- **A history that has received the page it asked for** has loaded it. -/
theorem of_listed {slice : Slice}
    (answered : Service.answer (.list h.query) service = (.ok slice, service')) :
    Loaded service h service' (h.received (.ok slice)) where
  records := (Archive.of_listed answered).2
  shown := .of_listed answered
  query := received_query ..
  selectedId := selectedId_received ..
  issued := received_issued ..

theorem page (loaded : Loaded service h service' h') : h'.paging.page = h.paging.page :=
  congrArg Query.page loaded.query

theorem perPage (loaded : Loaded service h service' h') : h'.paging.perPage = h.paging.perPage :=
  congrArg Query.perPage loaded.query

theorem filters (loaded : Loaded service h service' h') : h'.filters = h.filters :=
  congrArg Query.filters loaded.query

/-- What the last page is can be told before the load. -/
theorem last (loaded : Loaded service h service' h') :
    max 1 h'.paging.totalPages = lastPage σ (Archive.records service) h := by
  rw [← loaded.shown.lastPage_eq, lastPage_congr loaded.records loaded.filters loaded.perPage]

end Loaded

/-! ## Landing -/

/-- **Loads the current page, and leaves it if it has vanished.** -/
def land : Act σ Bool := do
  load
  leaveVanishedPage
  return true

/-- **A page was landed on**: the one where the history was, if it still exists, and the last one
otherwise.  The page that is left for it is asked for first. -/
structure Landed (s : Session σ History) (events : List Event) (s' : Session σ History) : Prop where
  transcript : s'.transcript = s.transcript ++ events
  records : Archive.records s'.service = Archive.records s.service
  shown : Shows s'.service s'.state
  last : max 1 s'.state.paging.totalPages = lastPage σ (Archive.records s.service) s.state
  page : s'.state.paging.page
    = min s.state.paging.page (lastPage σ (Archive.records s.service) s.state)
  perPage : s'.state.paging.perPage = s.state.paging.perPage
  filters : s'.state.filters = s.state.filters
  selectedId : s'.state.selectedId = s.state.selectedId
  issued : s.state.issued < s'.state.issued
  requests : events.filterMap Event.request?
    = if s'.state.paging.page = s.state.paging.page then [.list s.state.query]
      else [.list s.state.query, .list s'.state.query]

namespace Landed

variable {s s' : Session σ History} {service service' : σ} {h h' : History} {events : List Event}

/-- One lands on a page that exists. -/
theorem there (landed : Landed s events s') :
    s'.state.paging.page ≤ max 1 s'.state.paging.totalPages := by
  rw [landed.last, landed.page]
  exact Nat.min_le_right _ _

/-- The page is still there. -/
theorem of_there (loaded : Loaded s.service s.state service h)
    (there : h.paging.page ≤ max 1 h.paging.totalPages)
    (requests : events.filterMap Event.request? = [.list s.state.query]) :
    Landed s events (s.after service h events) where
  transcript := rfl
  records := loaded.records
  shown := loaded.shown
  last := loaded.last
  page := by
    rw [loaded.page, loaded.last] at there
    exact loaded.page.trans (Nat.min_eq_left there).symm
  perPage := loaded.perPage
  filters := loaded.filters
  selectedId := loaded.selectedId
  issued := by
    rw [Session.after_state, loaded.issued]
    exact Nat.lt_succ_self _
  requests := by
    rw [Session.after_state, if_pos loaded.page, requests]

/-- The page has vanished, and the last one is loaded in its place. -/
theorem of_vanished (loaded : Loaded s.service s.state service h)
    (vanished : max 1 h.paging.totalPages < h.paging.page)
    (loaded' : Loaded service (h.atPage (max h.paging.totalPages 1)) service' h')
    (requests : events.filterMap Event.request?
      = [.list s.state.query, .list (h.atPage (max h.paging.totalPages 1)).query]) :
    Landed s events (s.after service' h' events) := by
  have hlast : max 1 h'.paging.totalPages = max 1 h.paging.totalPages := by
    rw [loaded'.last, ← loaded.shown.lastPage_eq]
    rfl
  have hpage : h'.paging.page = max 1 h.paging.totalPages := by
    have hmax : 1 ≤ Text.maxWord := by decide
    rw [loaded'.page, Nat.max_comm]
    exact Paging.atPage_page (Nat.le_max_left _ _) (Nat.max_le.2 ⟨hmax, h.paging.totalPages_le_max⟩)
  rw [loaded.page] at vanished
  refine ⟨rfl, loaded'.records.trans loaded.records, loaded'.shown, ?_, ?_,
    loaded'.perPage.trans loaded.perPage, loaded'.filters.trans loaded.filters,
    loaded'.selectedId.trans loaded.selectedId, ?_, ?_⟩
  · exact hlast.trans loaded.last
  · rw [← loaded.last]
    exact hpage.trans (Nat.min_eq_right (Nat.le_of_lt vanished)).symm
  · have hissued : h'.issued = s.state.issued + 1 + 1 := by
      rw [loaded'.issued, ← loaded.issued]
      rfl
    rw [Session.after_state, hissued]
    omega
  · have hmoved : ¬ h'.paging.page = s.state.paging.page := by
      rw [hpage]
      exact Nat.ne_of_lt vanished
    rw [Session.after_state, if_neg hmoved, requests, loaded'.query]

end Landed

/-- Loading a page is the first half of landing. -/
theorem land_of_listed {s : Session σ History} {slice : Slice} {service : σ}
    (answered : Service.answer (.list s.state.query) s.service = (.ok slice, service)) :
    let s' := s.after service (s.state.received (.ok slice))
      [.asked (.list s.state.query) (.ok slice)]
    land s = ((leaveVanishedPage s').1.map fun _ => true, (leaveVanishedPage s').2) := by
  have hload : load s = (.ok (), _) := load_apply answered
  rw [land, Action.bind_of_ok hload]
  exact Action.bind_pure_apply _ leaveVanishedPage fun _ => true

/-- **Where no request fails, a history lands on a page that exists.** -/
theorem lands {s : Session σ History} (smooth : Smooth (s.since (land s).2)) :
    (land s).1 = .ok true ∧ ∃ events, Landed s events (land s).2 := by
  rcases answered : Service.answer (.list s.state.query) s.service with ⟨e | slice, service⟩
  · have hload : load s = (.error e, _) := load_apply answered
    rw [land, Action.bind_of_error hload, Session.since_after] at smooth
    exact absurd smooth (Smooth.not_error (List.mem_cons_self ..))
  · have hland := land_of_listed answered
    have loaded : Loaded s.service s.state service (s.state.received (.ok slice)) :=
      .of_listed answered
    generalize s.state.received (.ok slice) = h at hland loaded
    by_cases there : h.paging.page ≤ max 1 h.paging.totalPages
    · have stays : h.fallbackPage = none := fallbackPage_eq_none there
      rw [hland, leaveVanishedPage_of_none stays]
      exact ⟨rfl, _, .of_there loaded there rfl⟩
    · have vanished := Nat.lt_of_not_le there
      have falls := loaded.shown.fallbackPage_eq_some vanished
      rcases answered' : Service.answer (.list (h.atPage (max h.paging.totalPages 1)).query) service
        with ⟨e | slice', service'⟩
      · rw [hland, leaveVanishedPage_apply falls answered', Session.after_after,
          Session.since_after] at smooth
        exact absurd smooth.right (Smooth.not_error (List.mem_cons_self ..))
      · have loaded' := Loaded.of_listed answered'
        rw [hland, leaveVanishedPage_apply falls answered', Session.after_after]
        exact ⟨rfl, _, .of_vanished loaded vanished loaded' rfl⟩

/-! ## Deletions -/

/-- **A deletion ends in a landing**, if no request fails. -/
theorem discard_lands {s : Session σ History} {id : Int}
    (smooth : Smooth (s.since (discard id true s).2)) :
    (discard id true s).1 = .ok true ∧ ∃ service events,
      Service.answer (.delete id) s.service = (.ok (), service)
        ∧ Landed (s.after service (s.state.forget id) (deleteEvents id)) events
          (discard id true s).2 := by
  rcases answered : Service.answer (.delete id) s.service with ⟨e | ⟨⟩, service⟩
  · rw [discard_error answered, Session.since_after] at smooth
    exact absurd smooth (Smooth.not_error (List.mem_cons_self ..))
  · have hdiscard : discard id true s
        = land (s.after service (s.state.forget id) (deleteEvents id)) := discard_ok answered
    rw [hdiscard] at smooth ⊢
    obtain ⟨result, events, landed⟩ := lands (smooth.since_after service _ _)
    exact ⟨result, service, events, rfl, landed⟩

/-- **What is left after a deletion.**  Where no request fails and the numbers of the records are
distinct, a deletion gives `true` and the record is gone.  One page has been asked for, or two; the
history is where it was, or on the last page if its own has vanished; and it shows that page of what
is left, which is empty only if nothing is left.  The record is closed if it was open. -/
theorem discard_shows_what_is_left {s : Session σ History} {id : Int}
    (distinct : ((Archive.records s.service).map (·.id)).Nodup)
    (smooth : Smooth (s.since (discard id true s).2)) :
    let s' := (discard id true s).2
    let h := s.state
    let h' := s'.state
    let left := Archive.matching s'.service h.filters
    (discard id true s).1 = .ok true
    ∧ Archive.records s'.service = (Archive.records s.service).filter (·.id != id)
    ∧ (s.since s').filterMap Event.request?
        = .delete id :: (if h'.paging.page = h.paging.page then [.list h.query]
          else [.list h.query, .list h'.query])
    ∧ (h'.filters = h.filters ∧ h'.paging.perPage = h.paging.perPage)
    ∧ (1 ≤ h'.paging.page ∧ h'.paging.page ≤ max 1 h'.paging.totalPages)
    ∧ (h.paging.page ≤ max 1 h'.paging.totalPages → h'.paging.page = h.paging.page)
    ∧ (max 1 h'.paging.totalPages < h.paging.page →
        h'.paging.page = max 1 h'.paging.totalPages)
    ∧ h'.paging.totalCount = left.length
    ∧ h'.paging.totalPages = pagesFor left.length h.paging.perPage
    ∧ h'.records
        = (left.drop ((h'.paging.page - 1) * h.paging.perPage)).take h.paging.perPage
    ∧ (∀ r ∈ h'.records, r.id ≠ id)
    ∧ (h'.view = .empty → left = [])
    ∧ h'.selectedId = if h.selectedId = some id then none else h.selectedId := by
  intro s' h h' left
  obtain ⟨result, service, events, answered, landed⟩ := discard_lands smooth
  have hquery : (h.forget id).query = h.query := query_forget h id
  have hpage : (h.forget id).paging.page = h.paging.page := congrArg Query.page hquery
  have hfilters : h'.filters = h.filters := landed.filters.trans (congrArg Query.filters hquery)
  have hperPage : h'.paging.perPage = h.paging.perPage :=
    landed.perPage.trans (congrArg Query.perPage hquery)
  have hleft : Archive.matching s'.service h'.filters = left := by rw [hfilters]
  have htotalCount : h'.paging.totalCount = left.length := by
    rw [landed.shown.totalCount, hleft]
  have hrecords : Archive.records s'.service = (Archive.records s.service).filter (·.id != id) := by
    rw [landed.records, Session.after_service, Archive.delete_ok answered,
      eraseP_id_eq_filter distinct]
  have hlisted : h'.records
      = (left.drop ((h'.paging.page - 1) * h.paging.perPage)).take h.paging.perPage := by
    rw [← hleft, ← hperPage]
    exact landed.shown.records
  have hmin : h'.paging.page = min h.paging.page (max 1 h'.paging.totalPages) := by
    rw [landed.page, ← landed.last, Session.after_state, hpage]
  have hrequests : (s.since s').filterMap Event.request?
      = .delete id :: events.filterMap Event.request? := by
    rw [Session.since, landed.transcript, Session.after_transcript, List.append_assoc,
      List.drop_left, List.filterMap_append]
    rfl
  refine ⟨result, hrecords, ?_, ⟨hfilters, hperPage⟩, ⟨h'.paging.one_le_page, landed.there⟩, ?_, ?_,
    htotalCount, ?_, hlisted, ?_, ?_, ?_⟩
  · rw [hrequests, landed.requests, Session.after_state, hpage, hquery]
  · intro there
    rw [hmin, Nat.min_eq_left there]
  · intro vanished
    rw [hmin, Nat.min_eq_right (Nat.le_of_lt vanished)]
  · rw [Paging.totalPages, htotalCount, hperPage]
  · intro r mem
    have hmatching : r ∈ left := List.mem_of_mem_drop (List.mem_of_mem_take (hlisted ▸ mem))
    have hkept : r ∈ Archive.records s'.service := (List.mem_filter.1 hmatching).1
    rw [hrecords] at hkept
    exact bne_iff_ne.1 (List.mem_filter.1 hkept).2
  · intro empty
    rw [← hleft]
    exact landed.shown.matching_eq_nil landed.there empty
  · rw [landed.selectedId, Session.after_state, selectedId_forget]

/-- A history on page 2, where the last of three records stands alone. -/
def aloneOnPageTwo : Session Store History where
  service := { records := [3, 2, 1].map fun id => ⟨id, "", "", .beginner, "", false, ⟨0, 0⟩, none⟩ }
  state := (start 2).atPage 2

/-- When it is deleted, page 1 is left. -/
theorem discard_shows_what_is_left_of_two_pages :
    let s' := (discard 1 true aloneOnPageTwo).2
    ((Archive.records aloneOnPageTwo.service).map (·.id)).Nodup
    ∧ Smooth (aloneOnPageTwo.since s')
    ∧ Archive.records s'.service = (Archive.records aloneOnPageTwo.service).filter (·.id != 1)
    ∧ s'.state.paging.page = max 1 s'.state.paging.totalPages
    ∧ s'.state.records.map (·.id) = [3, 2] := by
  intro s'
  have distinct : ((Archive.records aloneOnPageTwo.service).map (·.id)).Nodup := by decide
  have smooth : Smooth (aloneOnPageTwo.since s') := by decide
  have vanished : max 1 s'.state.paging.totalPages < aloneOnPageTwo.state.paging.page := by decide
  obtain ⟨-, gone, -, -, -, -, moved, -⟩ := discard_shows_what_is_left distinct smooth
  exact ⟨distinct, smooth, gone, moved vanished, by decide⟩

end Exposition.History
