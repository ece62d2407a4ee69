import Exposition.Proofs.History.Tracks

/-!
# Proofs/History/Queries — the queries that a history issues

A query is judged by the log before it (`Log.Allows`): the first one asks for page 1, and so does
every one with other filters than the one before; with the same filters the page is the same, or
page 1, or one that the last answer that counted knows of.  After every run, each query of the log
is allowed by what stands before it (`Desk.issues_lawful_queries`).

A query goes out right after a move, and a move is allowed because the history tracks its log: the
newest ticket says where it was, and the last answer how many pages there are (`Tracks.allows`).
-/

namespace Exposition

/-- The query of a request for a page. -/
def Event.query? : Event → Option Query
  | .asked (.list q) _ => some q
  | _ => none

namespace History

namespace Log

/-- The queries that were issued, in order. -/
def queries (log : Log) : List Query := log.tickets.reverse.map Ticket.query

/-- Every page that was asked for is a query of the log. -/
theorem queries_foldl_note (events : List Event) (log : Log) :
    queries (events.foldl note log) = queries log ++ events.filterMap Event.query? := by
  induction events generalizing log with
  | nil => exact (List.append_nil _).symm
  | cons event events ih =>
    have hnote : queries (log.note event) = queries log ++ event.query?.toList := by
      cases event with
      | asked r reply =>
        cases r with
        | list q => simp [note, queries, Event.query?, next]
        | _ => exact (List.append_nil _).symm
      | _ => exact (List.append_nil _).symm
    rw [List.foldl_cons, ih, hnote, List.append_assoc, List.filterMap_cons]
    cases event.query? with
    | none => rfl
    | some q => rfl

/-- **The query may be the next one** after a log. -/
structure Allows (perPage : Nat) (log : Log) (q : Query) : Prop where
  perPage : q.perPage = min (max perPage 1) largestPageSize
  one_le_page : 1 ≤ q.page
  /-- The first query. -/
  first : log.newest? = none → q.page = 1
  /-- A query with other filters than the one before. -/
  refiltered : ∀ t, log.newest? = some t → t.query.filters ≠ q.filters → q.page = 1
  /-- A query with the same filters. -/
  turned : ∀ t, log.newest? = some t → t.query.filters = q.filters →
    q.page = t.query.page ∨ q.page = 1
      ∨ ∃ slice, log.answer? = some slice ∧ q.page ≤ pagesFor slice.totalCount q.perPage

/-- **Each query of the log** is allowed by what stands before it. -/
def Lawful (perPage : Nat) (log : Log) : Prop :=
  ∀ (newer : Log) (t : Ticket) (older : Log), log = newer ++ .issued t :: older →
    older.Allows perPage t.query

variable {perPage : Nat} {log : Log}

theorem Lawful.nil : Lawful perPage [] := fun newer t older split => absurd split (by simp)

theorem Lawful.issued (lawful : log.Lawful perPage) {t : Ticket}
    (allows : log.Allows perPage t.query) : Lawful perPage (.issued t :: log) := by
  intro newer t' older split
  cases newer with
  | nil =>
    obtain ⟨same, rfl⟩ := List.cons.inj split
    obtain rfl : t = t' := Passage.issued.inj same
    exact allows
  | cons passage newer => exact lawful newer t' older (List.cons.inj split).2

theorem Lawful.settled (lawful : log.Lawful perPage) (t : Ticket)
    (reply : Except ServiceError Slice) : Lawful perPage (.settled t reply :: log) := by
  intro newer t' older split
  cases newer with
  | nil => exact absurd (List.cons.inj split).1 (by simp)
  | cons passage newer => exact lawful newer t' older (List.cons.inj split).2

/-- An answer counts only after a ticket. -/
theorem newest?_of_answer? {slice : Slice} (answered : log.answer? = some slice) :
    ∃ t, log.newest? = some t := by
  induction log with
  | nil => exact absurd answered (by simp [answer?])
  | cons passage log ih =>
    cases passage with
    | issued t => exact ⟨t, rfl⟩
    | settled t reply =>
      by_cases newest : newest? log = some t
      · exact ⟨t, newest⟩
      · rw [answer?_settled_of_late newest] at answered
        exact ih answered

end Log

/-! ## The invariant -/

/-- **A history whose log is lawful**, and what the next query needs to know of it. -/
structure Lawful (perPage : Nat) (log : Log) (h : History) : Prop where
  queries : log.Lawful perPage
  size : h.paging.perPage = min (max perPage 1) largestPageSize
  /-- Before the first query the history is on page 1. -/
  fresh : log.newest? = none → h.paging.page = 1

/-- A page that the history knows of is page 1, or one that the last answer knows of. -/
theorem Tracks.page_known {log : Log} {h : History} (tracks : Tracks log h) {page : Nat}
    (first : 1 ≤ page) (last : page ≤ max 1 h.paging.totalPages) : page = 1
      ∨ ∃ slice, log.answer? = some slice ∧ page ≤ pagesFor slice.totalCount h.paging.perPage := by
  have htotal := tracks.totalCount
  rw [Paging.totalPages] at last
  rcases answered : log.answer? with _ | slice
  · rw [answered, Option.map_none, Option.getD_none] at htotal
    rw [htotal, pagesFor_zero] at last
    exact .inl (by omega)
  · rw [answered, Option.map_some, Option.getD_some] at htotal
    rw [htotal] at last
    by_cases one : page = 1
    · exact .inl one
    · exact .inr ⟨slice, rfl, by omega⟩

/-- **A move is allowed**: it starts from where the newest ticket asks to be, and stays among the
pages that the last answer knows of unless it goes to page 1. -/
theorem Tracks.allows {perPage : Nat} {log : Log} {h h' : History} (tracks : Tracks log h)
    (lawful : Lawful perPage log h) (move : Move h h') : log.Allows perPage h'.query := by
  have hsize : h'.paging.perPage = h.paging.perPage := move.kept.2.2.1
  have same {t : Ticket} (newest : log.newest? = some t) : t.query = h.query :=
    (tracks.newest t newest).2
  cases move with
  | stay =>
    refine ⟨lawful.size, h.paging.one_le_page, lawful.fresh, fun t newest other => ?_,
      fun t newest _ => .inl ?_⟩
    · exact absurd (congrArg Query.filters (same newest)) other
    · rw [same newest]
  | refilter filters =>
    have hpage : (h.withFilters filters).query.page = 1 :=
      Paging.atPage_page (p := h.paging) (Nat.le_refl 1) (by decide)
    exact ⟨lawful.size, Nat.le_of_eq hpage.symm, fun _ => hpage, fun _ _ _ => hpage,
      fun _ _ _ => .inr (.inl hpage)⟩
  | @turn page first last =>
    have hmax : page ≤ Text.maxWord :=
      Nat.le_trans last (Nat.max_le.2 ⟨by decide, h.paging.totalPages_le_max⟩)
    have hpage : (h.atPage page).query.page = page := Paging.atPage_page (p := h.paging) first hmax
    have known := tracks.page_known first last
    rw [← hpage] at known
    refine ⟨lawful.size, Nat.le_trans first (Nat.le_of_eq hpage.symm), fun fresh => ?_,
      fun t newest other => ?_, fun t newest _ => .inr known⟩
    · rcases known with one | ⟨slice, answered, -⟩
      · exact one
      · obtain ⟨t, newest⟩ := Log.newest?_of_answer? answered
        exact absurd (newest.symm.trans fresh) (by simp)
    · exact absurd (congrArg Query.filters (same newest)) other

namespace Lawful

variable {perPage : Nat} {log : Log} {h h' : History}

theorem start (perPage : Nat) : Lawful perPage [] (.start perPage) where
  queries := .nil
  size := rfl
  fresh := fun _ => rfl

/-- A ticket is issued after a move. -/
theorem issue (lawful : Lawful perPage log h) (tracks : Tracks log h) (move : Move h h') :
    Lawful perPage (.issued h'.issue.1 :: log) h'.issue.2 where
  queries := lawful.queries.issued (tracks.allows lawful move)
  size := move.kept.2.2.1.trans lawful.size
  fresh := fun none => absurd none (by simp)

/-- A ticket is settled. -/
theorem settle (lawful : Lawful perPage log h) (t : Ticket) (reply : Except ServiceError Slice) :
    Lawful perPage (.settled t reply :: log) (h.settle t reply).2 := by
  have hquery : (h.settle t reply).2.query = h.query := by
    by_cases late : t.number < h.issued
    · rw [settle_of_late late]
    · cases reply with
      | ok slice => rw [settle_ok late]; rfl
      | error e => rw [settle_error late]; rfl
  exact ⟨lawful.queries.settled t reply, (congrArg Query.perPage hquery).trans lawful.size,
    fun none => (congrArg Query.page hquery).trans (lawful.fresh none)⟩

/-- A load after a move. -/
theorem received (lawful : Lawful perPage log h) (tracks : Tracks log h) (move : Move h h')
    (reply : Except ServiceError Slice) : Lawful perPage
      (.settled (log.next h'.query) reply :: .issued (log.next h'.query) :: log)
      (h'.received reply) := by
  rw [tracks.next_eq move]
  exact (lawful.issue tracks move).settle _ reply

end Lawful

/-! ## Strides, walks and runs keep it -/

variable {σ : Type} [Service σ] {perPage : Nat}

theorem Stride.lawful {s s' : Session σ History} {events : List Event} {log : Log}
    (stride : Stride (fun r => ∀ q, r ≠ .list q) s events s') (tracks : Tracks log s.state)
    (lawful : Lawful perPage log s.state) :
    Lawful perPage (events.foldl Log.note log) s'.state := by
  cases stride with
  | fetch move _ =>
    rw [Log.note_pageEvents]
    exact lawful.received tracks move _
  | @exchange r reply service other _ =>
    rw [List.foldl_cons, List.foldl_nil, Log.note_of_other other]
    exact lawful
  | tell => exact lawful
  | aside selected languages => exact ⟨lawful.queries, lawful.size, lawful.fresh⟩

theorem Walk.lawful {s s' : Session σ History} {events : List Event} {log : Log}
    (walk : Walk (fun r => ∀ q, r ≠ .list q) s events s') (tracks : Tracks log s.state)
    (lawful : Lawful perPage log s.state) :
    Lawful perPage (events.foldl Log.note log) s'.state := by
  induction walk with
  | rest => exact lawful
  | on walk stride ih =>
    rw [List.foldl_append]
    exact stride.lawful (walk.tracks tracks) ih

/-- **What every operation keeps.** -/
theorem Desk.Step.lawful {d d' : Desk σ} {o : Operation} (step : Step d o d')
    (tracks : Tracks d.log d.session.state) (lawful : Lawful perPage d.log d.session.state) :
    Lawful perPage d'.log d'.session.state := by
  cases step with
  | whole whole =>
    obtain ⟨events, walk⟩ := o.walks whole (fun _ may => may.ne_list) d.session
    rw [walk.since_eq]
    exact walk.lawful tracks lawful
  | issue => exact lawful.issue tracks (.stay _)
  | @late t known late reply =>
    have hsettled := lawful.settle t reply
    rwa [settle_of_late late] at hsettled
  | timely known timely reply => exact lawful.settle _ reply
  | pass unknown reply => exact lawful

/-- **The log has every page that was asked for**, in order. -/
def Desk.Complete (d : Desk σ) : Prop :=
  (d.session.transcript.filterMap Event.query?).Sublist d.log.queries

theorem Desk.Step.complete {d d' : Desk σ} {o : Operation} (step : Step d o d')
    (complete : d.Complete) : d'.Complete := by
  cases step with
  | whole whole =>
    obtain ⟨events, walk⟩ := o.walks whole (fun _ may => may.ne_list) d.session
    rw [Complete, walk.since_eq, walk.transcript, List.filterMap_append, Log.queries_foldl_note]
    exact List.Sublist.append_right complete _
  | issue =>
    rw [Complete, Log.queries, Session.after_transcript, List.append_nil, Log.tickets_issued,
      List.reverse_cons, List.map_append]
    exact complete.trans (List.sublist_append_left _ _)
  | late => exact complete
  | timely known timely reply =>
    have quiet : (notices reply).filterMap Event.query? = [] := by
      cases reply with
      | ok slice => rfl
      | error e => rfl
    rw [Complete, Session.after_transcript, List.filterMap_append, quiet, List.append_nil]
    exact complete
  | pass => exact complete

namespace Desk

theorem complete_run {d : Desk σ} (complete : d.Complete) (ops : List Operation) :
    (d.run ops).Complete := run_keeps (fun step => step.complete) complete ops

/-- **What every run keeps.** -/
theorem lawful_run {d : Desk σ} (tracks : Tracks d.log d.session.state)
    (lawful : Lawful perPage d.log d.session.state) (ops : List Operation) :
    Lawful perPage (d.run ops).log (d.run ops).session.state := by
  have kept := run_keeps
    (P := fun d => Tracks d.log d.session.state ∧ Lawful perPage d.log d.session.state)
    (fun step holds => ⟨step.tracks holds.1, step.lawful holds.1 holds.2⟩) ⟨tracks, lawful⟩ ops
  exact kept.2

/-- **The law of the queries**: whatever is done at a desk, and whatever the service answers, the
log has every page that the service was asked for, and each query of the log is allowed by what
stands before it. -/
theorem issues_lawful_queries (service : σ) (perPage : Nat) (ops : List Operation) :
    ((start service perPage).run ops).Complete
    ∧ ((start service perPage).run ops).log.Lawful perPage :=
  ⟨complete_run (d := start service perPage) (List.Sublist.refl []) ops,
    (lawful_run (Tracks.start perPage) (Lawful.start perPage) ops).queries⟩

end Desk

end History

end Exposition
