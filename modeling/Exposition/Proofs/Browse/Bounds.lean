import Exposition.Proofs.Browse.Beat
import Exposition.Proofs.History.Queries
import Exposition.Service.Scripted

/-!
# Proofs/Browse/Bounds — pages are asked for within bounds that are known

How many pages there are is known from the last page that came, and if filters have changed since
and the load failed, that tells of other filters.  The browser turns no page then, so it never asks
for a page that no answer has told of, under these filters and of this size
(`Sitting.asks_within_known_bounds`).

Two facts about a history carry this: where it is is known, so it may load again (`Poised`); and
unless its last load has failed, so is every page up to its last one, so it may turn to any of them
(`Grounded`).  A move leaves the first only, and the load after it brings the second back
(`Poised.load_after`).
-/

namespace Exposition

/-! ## Known bounds -/

theorem Event.query?_eq_some_iff {e : Event} {q : Query} :
    e.query? = some q ↔ ∃ reply, e = .asked (.list q) reply := by
  constructor
  · intro asks
    unfold query? at asks
    split at asks
    · obtain rfl := Option.some.inj asks
      exact ⟨_, rfl⟩
    · exact absurd asks (by simp)
  · rintro ⟨reply, rfl⟩
    rfl

/-- **A query within known bounds**: it asks for page 1, or a page under the same filters and of the
same size has come and has told of so many pages. -/
def Query.IsKnown (events : List Event) (q : Query) : Prop :=
  1 < q.page → ∃ q' slice, .asked (.list q') (.ok slice) ∈ events
    ∧ q'.filters = q.filters ∧ q'.perPage = q.perPage
    ∧ q.page ≤ pagesFor slice.totalCount q.perPage

namespace Query.IsKnown

variable {events events' : List Event} {q : Query}

theorem of_first (first : q.page ≤ 1) : q.IsKnown events := fun later =>
  absurd first (Nat.not_le_of_lt later)

/-- What is known stays known. -/
theorem append (known : q.IsKnown events) (events' : List Event) :
    q.IsKnown (events ++ events') := fun later => by
  obtain ⟨q', slice, came, rest⟩ := known later
  exact ⟨q', slice, List.mem_append_left _ came, rest⟩

/-- A page before one that is known. -/
theorem earlier (known : q.IsKnown events) {page : Nat} (earlier : page ≤ q.page) :
    Query.IsKnown events { q with page } := fun later => by
  obtain ⟨q', slice, came, filters, perPage, last⟩ := known (Nat.lt_of_lt_of_le later earlier)
  exact ⟨q', slice, came, filters, perPage, Nat.le_trans earlier last⟩

end Query.IsKnown

/-- **Each query was within bounds** that were known when it was sent. -/
def AllKnown (events : List Event) : Prop :=
  ∀ before q reply after, events = before ++ .asked (.list q) reply :: after → q.IsKnown before

namespace AllKnown

variable {events : List Event}

theorem nil : AllKnown [] := fun before q reply after split => absurd split (by simp)

/-- One more event: if it asks for a page, that page is known. -/
theorem snoc (all : AllKnown events) {e : Event}
    (known : ∀ q, e.query? = some q → q.IsKnown events) : AllKnown (events ++ [e]) := by
  intro before q reply after split
  rcases List.eq_nil_or_concat after with rfl | ⟨after, last, rfl⟩
  · obtain ⟨rfl, same⟩ := List.append_inj' split rfl
    exact known q (by rw [List.head_eq_of_cons_eq same]; rfl)
  · rw [List.concat_eq_append, ← List.cons_append, ← List.append_assoc] at split
    exact all before q reply after (List.append_inj' split rfl).1

/-- Events that ask for no page. -/
theorem append (all : AllKnown events) {events' : List Event}
    (quiet : events'.filterMap Event.query? = []) : AllKnown (events ++ events') := by
  induction events' using List.reverseRecOn with
  | nil => rwa [List.append_nil]
  | append_singleton events' e ih =>
    rw [List.filterMap_append, List.append_eq_nil_iff] at quiet
    rw [← List.append_assoc]
    refine (ih quiet.1).snoc fun q asks => ?_
    rw [List.filterMap_cons, asks] at quiet
    exact absurd quiet.2 (by simp)

end AllKnown

namespace History

/-! ## Histories within known bounds -/

/-- **The page where the history is is known**, and so were all that were asked for. -/
structure Poised (events : List Event) (h : History) : Prop where
  all : AllKnown events
  here : h.query.IsKnown events

/-- **All pages of the history are known**, unless its last load has failed. -/
structure Grounded (events : List Event) (h : History) : Prop extends Poised events h where
  within : (∀ message, h.view ≠ .failed message) → ∀ page ≤ h.paging.totalPages,
    Query.IsKnown events ⟨page, h.paging.perPage, h.filters⟩

variable {events : List Event} {h h' : History}

theorem Poised.other (poised : Poised events h) {events' : List Event}
    (quiet : events'.filterMap Event.query? = []) (same : h'.query = h.query) :
    Poised (events ++ events') h' where
  all := poised.all.append quiet
  here := same ▸ poised.here.append events'

/-- What has nothing to do with pages. -/
theorem Grounded.other (grounded : Grounded events h) {events' : List Event}
    (quiet : events'.filterMap Event.query? = []) (paging : h'.paging = h.paging)
    (filters : h'.filters = h.filters) (view : h'.view = h.view) :
    Grounded (events ++ events') h' where
  toPoised := grounded.toPoised.other quiet (by rw [query, query, paging, filters])
  within shown page last := by
    rw [view] at shown
    rw [paging] at last ⊢
    rw [filters]
    exact (grounded.within shown page last).append events'

/-- Nothing has passed. -/
theorem Grounded.aside (grounded : Grounded events h) (paging : h'.paging = h.paging)
    (filters : h'.filters = h.filters) (view : h'.view = h.view) : Grounded events h' := by
  rw [← List.append_nil events]
  exact grounded.other rfl paging filters view

/-- **A page of the history**, while it is known how many there are. -/
theorem Grounded.turn (grounded : Grounded events h) (shown : ∀ message, h.view ≠ .failed message)
    {page : Nat} (first : 1 ≤ page) (last : page ≤ h.paging.totalPages) :
    Poised events (h.atPage page) where
  all := grounded.all
  here := by
    have hpage : (h.paging.atPage page).page = page :=
      Paging.atPage_page first (Nat.le_trans last h.paging.totalPages_le_max)
    have hquery : (h.atPage page).query = ⟨page, h.paging.perPage, h.filters⟩ :=
      congrArg (Query.mk · h.paging.perPage h.filters) hpage
    exact hquery ▸ grounded.within shown page last

/-- Page 1 under any filters. -/
theorem Poised.refilter (poised : Poised events h) (filters : Filters) :
    Poised events (h.withFilters filters) where
  all := poised.all
  here := .of_first (Nat.le_of_eq (Paging.atPage_page (p := h.paging) (Nat.le_refl 1) (by decide)))

/-- The page to fall back to lies before the one that has vanished. -/
theorem Poised.fallback (poised : Poised events h) {page : Nat}
    (falls : h.fallbackPage = some page) : Poised events (h.atPage page) where
  all := poised.all
  here := by
    simp only [fallbackPage] at falls
    split at falls
    · rename_i vanished
      simp only [Bool.and_eq_true, decide_eq_true_eq] at vanished
      obtain rfl : max h.paging.totalPages 1 = page := Option.some.inj falls
      refine poised.here.earlier ?_
      change min (max (max h.paging.totalPages 1) 1) Text.maxWord ≤ h.paging.page
      omega
    · exact absurd falls (by simp)

/-- The pages are known of when one of them has come. -/
theorem Grounded.received (poised : Poised events h) (reply : Except ServiceError Slice) :
    Grounded (events ++ pageEvents h.query reply) (h.received reply) where
  all := by
    rw [pageEvents, ← List.singleton_append, ← List.append_assoc]
    refine (poised.all.snoc fun q asks => ?_).append (by cases reply <;> rfl)
    obtain rfl : h.query = q := Option.some.inj asks
    exact poised.here
  here := by
    rw [received_query]
    exact poised.here.append _
  within shown page last := by
    cases reply with
    | ok slice =>
      rw [received_ok] at last ⊢
      exact fun _ => ⟨h.query, slice, List.mem_append_right _ (List.mem_cons_self ..), rfl, rfl,
        last⟩
    | error e =>
      rw [received_error] at shown
      exact absurd rfl (shown _)

/-! ## Operations within known bounds -/

variable {σ : Type} [Service σ] {s : Session σ History}

/-- **A load from a page that is known.** -/
theorem Poised.load_after {service : σ} {events : List Event}
    (poised : Poised (s.transcript ++ events) h) :
    let s' := (load (s.after service h events)).2
    Grounded s'.transcript s'.state := by
  rcases answered : Service.answer (.list h.query) service with ⟨reply, service'⟩
  rw [History.load_after answered]
  have grounded := Grounded.received poised reply
  rwa [List.append_assoc] at grounded

/-- A load of a page that is known, right after a move. -/
theorem Poised.load_moved (poised : Poised s.transcript h) :
    let s' := (load (s.after s.service h [])).2
    Grounded s'.transcript s'.state :=
  Poised.load_after (by rwa [List.append_nil])

namespace Grounded

theorem load (grounded : Grounded s.transcript s.state) :
    Grounded (load s).2.transcript (load s).2.state := by
  have loaded := grounded.toPoised.load_moved
  rwa [Session.after_self] at loaded

theorem learnLanguages (grounded : Grounded s.transcript s.state) :
    Grounded (learnLanguages s).2.transcript (learnLanguages s).2.state := by
  rcases answered : Service.answer .languages s.service with ⟨e | options, service⟩
  · rw [learnLanguages_error answered]
    exact grounded.other rfl rfl rfl rfl
  · rw [learnLanguages_ok answered]
    exact grounded.other rfl rfl rfl rfl

theorem openUp (grounded : Grounded s.transcript s.state) :
    Grounded (openUp s).2.transcript (openUp s).2.state := by
  rw [openUp_apply]
  exact grounded.load.learnLanguages

theorem filterBy (grounded : Grounded s.transcript s.state) (filters : Filters) :
    Grounded (filterBy filters s).2.transcript (filterBy filters s).2.state := by
  rw [filterBy_apply]
  exact (grounded.refilter filters).load_moved

theorem turnBy (grounded : Grounded s.transcript s.state)
    (shown : ∀ message, s.state.view ≠ .failed message) (delta : Int) :
    Grounded (turnBy delta s).2.transcript (turnBy delta s).2.state := by
  rcases target : s.state.paging.target delta with _ | page
  · rw [turnBy_of_none target]
    exact grounded
  · obtain ⟨first, last⟩ := Paging.of_target_eq_some target
    rw [turnBy_of_some target, turnTo_apply]
    exact (grounded.turn shown first last).load_moved

theorem jumpTo (grounded : Grounded s.transcript s.state)
    (shown : ∀ message, s.state.view ≠ .failed message) (page : Nat) :
    Grounded (jumpTo page s).2.transcript (jumpTo page s).2.state := by
  by_cases missing : page = 0 ∨ s.state.paging.totalPages < page
  · rw [jumpTo_of_missing missing]
    exact grounded
  · rw [jumpTo_of_page missing, turnTo_apply]
    exact (grounded.turn shown (by omega) (by omega)).load_moved

theorem markFavorite (grounded : Grounded s.transcript s.state) (id : Int) (isFavorite : Bool) :
    let s' := (History.markFavorite id isFavorite s).2
    Grounded s'.transcript s'.state := by
  rcases answered : Service.answer (.mark id isFavorite) s.service with ⟨e | message, service⟩
  · rw [markFavorite_error answered]
    exact grounded.other rfl rfl rfl rfl
  · have marked : Poised (s.transcript ++ markEvents id isFavorite message)
        (s.state.mark id isFavorite) := grounded.toPoised.other rfl rfl
    rw [markFavorite_ok answered]
    exact marked.load_after

theorem leaveVanishedPage (grounded : Grounded s.transcript s.state) :
    Grounded (leaveVanishedPage s).2.transcript (leaveVanishedPage s).2.state := by
  rcases falls : s.state.fallbackPage with _ | page
  · rw [leaveVanishedPage_of_none falls]
    exact grounded
  · rw [leaveVanishedPage_of_some falls, turnTo_apply]
    exact (grounded.fallback falls).load_moved

theorem discard (grounded : Grounded s.transcript s.state) (id : Int) (confirmed : Bool) :
    Grounded (discard id confirmed s).2.transcript (discard id confirmed s).2.state := by
  cases confirmed with
  | false => exact grounded
  | true =>
    rcases answered : Service.answer (.delete id) s.service with ⟨e | ⟨⟩, service⟩
    · rw [discard_error answered]
      exact grounded.other rfl rfl rfl rfl
    · have loaded : let s' := (History.load
          (s.after service (s.state.forget id) (deleteEvents id))).2
          Grounded s'.transcript s'.state :=
        (grounded.toPoised.other rfl (query_forget _ id)).load_after
      rw [discard_ok answered, Action.bind_apply]
      rcases done : History.load (s.after service (s.state.forget id) (deleteEvents id))
        with ⟨e | ⟨⟩, s'⟩
      · rw [done] at loaded
        exact loaded
      · rw [done] at loaded
        dsimp only
        rw [Action.bind_pure_apply]
        exact loaded.leaveVanishedPage

theorem toggleOpen (grounded : Grounded s.transcript s.state) :
    Grounded (toggleOpen s).2.transcript (toggleOpen s).2.state := by
  rcases opened : s.state.selected with _ | r
  · rw [toggleOpen_of_none opened]
    exact grounded
  · rw [toggleOpen_of_some opened]
    exact grounded.markFavorite r.id (!r.isFavorite)

theorem discardOpen (grounded : Grounded s.transcript s.state) (confirmed : Bool) :
    Grounded (discardOpen confirmed s).2.transcript (discardOpen confirmed s).2.state := by
  rcases opened : s.state.selectedId with _ | id
  · rw [discardOpen_of_none opened]
    exact grounded
  · have discarded := grounded.discard id confirmed
    rw [discardOpen_of_some opened]
    rcases done : History.discard id confirmed s with ⟨e | _ | _, s'⟩
    · rwa [done] at discarded
    · rwa [done] at discarded
    · rw [done] at discarded
      have closed : Grounded (s'.transcript ++ []) s'.state.deselect :=
        discarded.other rfl rfl rfl rfl
      exact closed

/-- **Whatever the browser does** leaves all pages known. -/
theorem act (grounded : Grounded s.transcript s.state) {o : Operation}
    (can : Browse.Browser.CanDo s.state o) :
    Grounded (o.act s).2.transcript (o.act s).2.state := by
  cases o with
  | openUp => exact grounded.openUp
  | learnLanguages => exact grounded.learnLanguages
  | load => exact grounded.load
  | filterBy filters => exact grounded.filterBy filters
  | liftFilters => exact grounded.filterBy {}
  | turnBy delta => exact grounded.turnBy (can.bounded trivial) delta
  | turnForward => exact grounded.turnBy (can.bounded trivial) 1
  | turnBack => exact grounded.turnBy (can.bounded trivial) (-1)
  | jumpTo page => exact grounded.jumpTo (can.bounded trivial) page
  | markFavorite id isFavorite => exact grounded.markFavorite id isFavorite
  | toggleOpen => exact grounded.toggleOpen
  | discard id confirmed => exact grounded.discard id confirmed
  | discardOpen confirmed => exact grounded.discardOpen confirmed
  | select r => exact grounded.aside rfl rfl rfl
  | deselect => exact grounded.aside rfl rfl rfl
  | issue => exact can.whole.elim
  | settle ticket reply => exact can.whole.elim

end Grounded

end History

/-! ## The browser within known bounds -/

namespace Browse.Browser

open History (Grounded)

variable {σ : Type} [Service σ]

theorem grounded_does {s s' : Session σ History} {o : Option History.Operation} (does : Does s o s')
    (can : ∀ o', o = some o' → CanDo s.state o') (grounded : Grounded s.transcript s.state) :
    Grounded s'.transcript s'.state := by
  induction does with
  | nothing => exact grounded
  | operation o => exact grounded.act (can o rfl)
  | hinted does n ih => exact (ih can).other rfl rfl rfl rfl

/-- **All pages stay known** while the browser is at work. -/
theorem grounded_lasts : Lasts σ Grounded where
  remark remark grounded := by
    cases remark with
    | _ => exact grounded.other rfl rfl rfl rfl
  does does can grounded := (grounded_does does can grounded).other rfl rfl rfl rfl

theorem grounded_startUp (service : σ) (pageSize searchDelay : Nat) :
    let s := (startUp { service, state := .start pageSize searchDelay }).2
    Grounded s.transcript s.state.history := by
  have fresh : Grounded [] (History.start pageSize) :=
    ⟨⟨.nil, .of_first (Nat.le_refl 1)⟩, fun _ page last => by
      have none : (History.start pageSize).paging.totalPages = 0 := pagesFor_zero _
      rw [none] at last
      exact .of_first (Nat.le_trans last (Nat.zero_le 1))⟩
  have opened := fresh.openUp (s := { service, state := .start pageSize })
  have quiet (h : History) :
      (naming h ++ [Event.printed h.listing]).filterMap Event.query? = [] := by
    rw [naming]
    cases h.languages with
    | nil => rfl
    | cons => rfl
  intro s
  rw [startUp_transcript, startUp_opened]
  exact opened.other (quiet _) rfl rfl rfl

end Browse.Browser

namespace Browse.Sitting

open Browser

variable {σ : Type} [Service σ]

/-- **A browser whose last load has failed asks for nothing** when it is told to turn a page. -/
theorem asks_nothing_of_failed {s : Session σ Browser} {message : String}
    (failed : s.state.history.view = .failed message) {input : Input} {c : Command}
    (gives : s.state.command? input = some c)
    (turns : c = .next ∨ c = .previous ∨ ∃ n, c = .page n) :
    (s.since (Browser.step input s).2).filterMap Event.request? = [] := by
  obtain ⟨hint, hints⟩ : ∃ hint, pagingHint? (historyPart s).state = some hint :=
    ⟨_, by rw [pagingHint?, historyPart, Session.withState, failed]⟩
  have turned (act : History.Act σ Unit) : turning act (historyPart s)
      = (.ok (), (historyPart s).after s.service s.state.history [.notified hint]) := by
    rw [turning, Action.bind_of_ok (Action.state_apply _), hints]
    rfl
  have obeyed : obey c (historyPart s)
      = (.ok (), (historyPart s).after s.service s.state.history [.notified hint]) := by
    rcases turns with rfl | rfl | ⟨n, rfl⟩
    · exact turned _
    · exact turned _
    · exact turned _
  have events : s.since (Browser.step input s).2
      = [.notified hint, .printed (viewed s.state.history)] := by
    rw [step_of_obeyed s gives]
    · rw [Session.since, shown_transcript, obeyed, Session.after_transcript, List.append_assoc]
      exact List.drop_left ..
    all_goals rcases turns with rfl | rfl | ⟨n, rfl⟩ <;> simp [target?]
  rw [events]
  rfl

/-- **Pages are asked for within known bounds**, in every run; and none at all after a failure. -/
theorem asks_within_known_bounds (service : σ) (pageSize searchDelay : Nat)
    (inputs : List Input) :
    let m := (start service pageSize searchDelay).run inputs
    (∀ before q reply after, m.session.transcript = before ++ .asked (.list q) reply :: after →
      1 < q.page → ∃ q' slice, .asked (.list q') (.ok slice) ∈ before
        ∧ q'.filters = q.filters ∧ q'.perPage = q.perPage
        ∧ q.page ≤ pagesFor slice.totalCount q.perPage)
    ∧ ∀ message, m.session.state.history.view = .failed message → ∀ input c,
      m.session.state.command? input = some c → (c = .next ∨ c = .previous ∨ ∃ n, c = .page n) →
      (m.session.since (m.step input).session).filterMap Event.request? = [] := by
  intro m
  have grounded : History.Grounded m.session.transcript m.session.state.history :=
    lasts_run grounded_lasts (grounded_startUp service pageSize searchDelay) inputs
  exact ⟨grounded.all, fun message failed input c gives turns =>
    asks_nothing_of_failed failed gives turns⟩

/-! Two records, each on a page of its own; the second page is shown, and then the load of the
favorites fails. -/

/-- A store of two records, and a fourth request that fails. -/
def breaking : Scripted Store where
  service := { records := [2, 1].map fun id => ⟨id, "", "", .beginner, "", false, ⟨0, 0⟩, none⟩ }
  script := [none, none, none, some fun _ => .error (.unexpected "")]

/-- **The second page was known** when it was asked for; no page is turned after the failure. -/
theorem asks_within_known_bounds_of_failure :
    let m := (start breaking 1 300).run
      [.line (Text.Utf8.encode "next\n".toList), .line (Text.Utf8.encode "fav yes\n".toList)]
    (∃ before q reply after, m.session.transcript = before ++ .asked (.list q) reply :: after
      ∧ q.page = 2 ∧ ∃ q' slice, .asked (.list q') (.ok slice) ∈ before
        ∧ q'.filters = q.filters ∧ q'.perPage = q.perPage
        ∧ q.page ≤ pagesFor slice.totalCount q.perPage)
    ∧ m.session.state.history.view = .failed History.loadFailure
    ∧ (m.session.since (m.step (.line (Text.Utf8.encode "next\n".toList))).session).filterMap
        Event.request? = [] := by
  intro m
  obtain ⟨known, quiet⟩ := asks_within_known_bounds breaking 1 300
    [.line (Text.Utf8.encode "next\n".toList), .line (Text.Utf8.encode "fav yes\n".toList)]
  have failed : m.session.state.history.view = .failed History.loadFailure := by decide +kernel
  have next : m.session.state.command? (.line (Text.Utf8.encode "next\n".toList)) = some .next := by
    decide +kernel
  have second : (⟨2, 1, {}⟩ : Query) ∈ m.session.transcript.filterMap Event.query? := by
    decide +kernel
  obtain ⟨e, mem, asks⟩ := List.mem_filterMap.1 second
  obtain ⟨before, after, split⟩ := List.append_of_mem mem
  obtain ⟨reply, rfl⟩ := Event.query?_eq_some_iff.1 asks
  exact ⟨⟨before, _, reply, after, split, rfl, known before _ reply after split (by decide)⟩,
    failed, quiet _ failed _ _ next (.inl rfl)⟩

end Browse.Sitting

end Exposition
