import Exposition.Proofs.History.Account
import Exposition.Service.Scripted
import Exposition.Service.Store

/-!
# Proofs/History/Failure — an operation that fails says so once, and stops

An operation may ask the service up to three times, and each request can fail.  The failure is the
result, the user hears of it once and last, and nothing more is asked about the history
(`Operation.fails_once`).  A change that is refused leaves the history as it was; a page that does
not come leaves the records and the open record as they were when it was asked for.

All of this is read off the accounts of an operation: before the failure there is only its lead,
which is smooth (`Lead.smooth`) and tells of one success if it makes a change (`Lead.told`).
-/

namespace Exposition

/-! ## Requests about the history -/

/-- The request is about the history, and not about languages, levels or a snippet. -/
def Request.isOfHistory : Request → Bool
  | .list _ => true
  | .get _ => true
  | .mark _ _ => true
  | .delete _ => true
  | .stats => true
  | _ => false

namespace Event

/-- The error of a request about the history that has failed. -/
def historyFailure? : Event → Option ServiceError
  | .asked r (.error e) => if r.isOfHistory then some e else none
  | _ => none

/-- A request about the history. -/
def isOfHistory (e : Event) : Bool := e.request?.any Request.isOfHistory

/-- The service has made a change that it was asked for. -/
def acknowledges : Event → Bool
  | .asked (.mark _ _) (.ok _) => true
  | .asked (.delete _) (.ok _) => true
  | _ => false

end Event

theorem Request.isOfHistory_of_changes {r : Request} (change : r.changes) : r.isOfHistory := by
  cases r with
  | mark => rfl
  | delete => rfl
  | _ => exact absurd change (by simp [Request.changes])

namespace History

/-- **The one request about the history that has failed**: none has failed before it, and none comes
after it. -/
structure FailsAt (events before : List Event) (r : Request) (e : ServiceError)
    (after : List Event) : Prop where
  split : events = before ++ .asked r (.error e) :: after
  isOfHistory : r.isOfHistory
  first : ∀ event ∈ before, event.historyFailure? = none
  last : ∀ event ∈ after, event.isOfHistory = false

/-- **What a page that has not come leaves alone**, and what is shown in its place. -/
structure KeepsList (h h' : History) : Prop where
  records : h'.records = h.records
  totalCount : h'.paging.totalCount = h.paging.totalCount
  totalPages : h'.paging.totalPages = h.paging.totalPages
  selected : h'.selected = h.selected
  view : h'.view = .failed loadFailure

theorem KeepsList.received (h : History) (q : Query) (e : ServiceError) :
    KeepsList h ((h.follow q).received (.error e)) := by
  rw [received_error]
  exact ⟨rfl, rfl, rfl, rfl, rfl⟩

/-- The languages are no part of the list. -/
theorem KeepsList.hear_languages {h h' : History} (keeps : KeepsList h h')
    (reply : Except ServiceError (List OfferedLanguage)) :
    KeepsList h (h'.hear (.asked .languages reply)) := by
  cases reply with
  | ok options =>
    exact ⟨keeps.records, keeps.totalCount, keeps.totalPages, keeps.selected, keeps.view⟩
  | error e => exact keeps

theorem historyFailure?_languages (reply : Except ServiceError (List OfferedLanguage)) :
    (Event.asked .languages reply).historyFailure? = none := by
  cases reply with
  | ok options => rfl
  | error e => rfl

theorem smooth_pageEvents (q : Query) (slice : Slice) :
    ∀ event ∈ pageEvents q (.ok slice), event.historyFailure? = none := by
  simp [pageEvents, notices, Event.historyFailure?]

/-! ## Leads -/

namespace Lead

variable {before : List Event}

/-- Nothing has failed before the last load. -/
theorem smooth (lead : Lead before) : ∀ event ∈ before, event.historyFailure? = none := by
  cases lead with
  | nothing => simp
  | marked id isFavorite message => simp [markEvents, Event.historyFailure?]
  | deleted id => simp [deleteEvents, Event.historyFailure?]
  | emptied id q empty => simp [deleteEvents, pageEvents, notices, Event.historyFailure?]

/-- Before the last load the user hears of a change that was made, and of nothing else. -/
theorem told (lead : Lead before) :
    (∀ n ∈ before.filterMap Event.notification?, n.tone = .success)
    ∧ (before.filterMap Event.notification?).length
      = if before.any Event.acknowledges then 1 else 0 := by
  cases lead with
  | nothing => exact ⟨by simp, rfl⟩
  | marked id isFavorite message =>
    exact ⟨by simp [markEvents, Event.notification?, Notification.success], rfl⟩
  | deleted id => exact ⟨by simp [deleteEvents, Event.notification?, Notification.success], rfl⟩
  | emptied id q empty =>
    refine ⟨?_, rfl⟩
    simp [deleteEvents, pageEvents, notices, Event.notification?, Notification.success]

end Lead

/-! ## Accounts -/

namespace Account

variable {failure : Option ServiceError} {events : List Event} {e : ServiceError}

/-- **What the user hears**: of the change that was made, and then of the failure. -/
theorem told (account : Account failure events) : ∃ good bad,
    events.filterMap Event.notification? = good ++ bad
    ∧ (∀ n ∈ good, n.tone = .success)
    ∧ good.length = (if events.any Event.acknowledges then 1 else 0)
    ∧ (failure = none ∧ bad = [] ∨ ∃ e n, failure = some e ∧ bad = [n] ∧ n.tone = .error) := by
  cases account with
  | nothing => exact ⟨[], [], rfl, by simp, rfl, .inl ⟨rfl, rfl⟩⟩
  | learned reply => exact ⟨[], [], rfl, by simp, rfl, .inl ⟨rfl, rfl⟩⟩
  | @refused r change e message =>
    refine ⟨[], [.error message], rfl, by simp, ?_, .inr ⟨e, _, rfl, rfl, rfl⟩⟩
    simp [Event.acknowledges]
  | @loaded before lead q reply =>
    obtain ⟨good, length⟩ := lead.told
    cases reply with
    | ok slice =>
      refine ⟨before.filterMap Event.notification?, [], ?_, good, ?_, .inl ⟨rfl, rfl⟩⟩
      · rw [List.filterMap_append]
        rfl
      · rw [length, List.any_append]
        simp [pageEvents, notices, Event.acknowledges]
    | error e =>
      refine ⟨before.filterMap Event.notification?, [.error "Failed to load history"], ?_, good, ?_,
        .inr ⟨e, _, rfl, rfl, rfl⟩⟩
      · rw [List.filterMap_append]
        rfl
      · rw [length, List.any_append]
        simp [pageEvents, notices, Event.acknowledges]
  | opened q reply reply' =>
    cases reply with
    | ok slice => exact ⟨[], [], rfl, by simp, rfl, .inl ⟨rfl, rfl⟩⟩
    | error e =>
      exact ⟨[], [.error "Failed to load history"], rfl, by simp, rfl, .inr ⟨e, _, rfl, rfl, rfl⟩⟩

/-- **An operation that ends well** has met no failure but that of the languages. -/
theorem smooth (account : Account none events) :
    ∀ event ∈ events, event.historyFailure? = none := by
  generalize hfailure : none = failure at account
  cases account with
  | nothing => simp
  | learned reply => simpa using historyFailure?_languages reply
  | refused change e message => exact absurd hfailure (by simp)
  | @loaded before lead q reply =>
    cases reply with
    | ok slice => exact List.forall_mem_append.2 ⟨lead.smooth, smooth_pageEvents q slice⟩
    | error e => exact absurd hfailure (by simp [failure?])
  | opened q reply reply' =>
    cases reply with
    | ok slice =>
      refine List.forall_mem_append.2 ⟨smooth_pageEvents q slice, fun event mem => ?_⟩
      rw [List.mem_singleton.1 mem]
      exact historyFailure?_languages reply'
    | error e => exact absurd hfailure (by simp [failure?])

/-- **Where an operation has failed**, and what the failure has left alone. -/
theorem failsAt (account : Account (some e) events) (h : History) : ∃ before r after,
    FailsAt events before r e after
    ∧ (r.changes → events.foldl hear h = h)
    ∧ (∀ q, r = .list q → KeepsList (before.foldl hear h) (events.foldl hear h)) := by
  generalize hfailure : some e = failure at account
  cases account with
  | nothing => exact absurd hfailure (by simp)
  | learned reply => exact absurd hfailure (by simp)
  | @refused r change e' message =>
    obtain rfl : e = e' := Option.some.inj hfailure
    refine ⟨[], r, [.notified (.error message)],
      ⟨rfl, Request.isOfHistory_of_changes change, by simp,
        by simp [Event.isOfHistory, Event.request?]⟩,
      fun _ => ?_, fun q hr => ?_⟩
    · cases r with
      | list q => exact absurd change (by simp [Request.changes])
      | _ => rfl
    · exact absurd change (by simp [hr, Request.changes])
  | @loaded before lead q reply =>
    obtain rfl : reply = .error e := failure?_eq_some_iff.1 hfailure.symm
    refine ⟨before, .list q, notices (.error e), ⟨rfl, rfl, lead.smooth, ?_⟩, fun change => ?_,
      fun q' hr => ?_⟩
    · simp [notices, Event.isOfHistory, Event.request?]
    · exact absurd change (by simp [Request.changes])
    · rw [List.foldl_append, hear_pageEvents]
      exact .received _ q e
  | opened q reply reply' =>
    obtain rfl : reply = .error e := failure?_eq_some_iff.1 hfailure.symm
    refine ⟨[], .list q, notices (.error e) ++ [.asked .languages reply'], ⟨rfl, rfl, by simp, ?_⟩,
      fun change => ?_, fun q' hr => ?_⟩
    · simp [notices, Event.isOfHistory, Event.request?, Request.isOfHistory]
    · exact absurd change (by simp [Request.changes])
    · rw [List.foldl_append, hear_pageEvents]
      exact (KeepsList.received _ q e).hear_languages reply'

/-- An operation fails exactly when a request about the history has failed. -/
theorem failed_iff (account : Account failure events) :
    (∃ e, failure = some e) ↔ ∃ event ∈ events, event.historyFailure? ≠ none := by
  constructor
  · rintro ⟨e, rfl⟩
    obtain ⟨before, r, after, fails, -, -⟩ := account.failsAt (.start 1)
    refine ⟨.asked r (.error e), ?_, by simp [Event.historyFailure?, fails.isOfHistory]⟩
    rw [fails.split]
    exact List.mem_append_right _ (List.mem_cons_self ..)
  · rintro ⟨event, mem, failed⟩
    cases failure with
    | none => exact absurd (account.smooth event mem) failed
    | some e => exact ⟨e, rfl⟩

/-! ### What the user hears -/

theorem ne_error_of_success {good : List Notification} (hgood : ∀ n ∈ good, n.tone = .success) :
    ∀ n ∈ good, n.tone ≠ .error := fun n mem => by
  rw [hgood n mem]
  decide

/-- An operation fails exactly when the user hears of an error. -/
theorem failed_iff_told (account : Account failure events) : (∃ e, failure = some e)
    ↔ ∃ n ∈ events.filterMap Event.notification?, n.tone = .error := by
  obtain ⟨good, bad, told, hgood, -, ⟨rfl, rfl⟩ | ⟨e, n, rfl, rfl, tone⟩⟩ := account.told
  · rw [told, List.append_nil]
    refine iff_of_false (by simp) fun ⟨n, mem, tone⟩ => ?_
    exact ne_error_of_success hgood n mem tone
  · exact iff_of_true ⟨e, rfl⟩ ⟨n, by rw [told]; simp, tone⟩

/-- The error is the last that the user hears of, and the only one. -/
theorem told_last (account : Account (some e) events) : ∃ earlier n,
    events.filterMap Event.notification? = earlier ++ [n] ∧ n.tone = .error
      ∧ ∀ n' ∈ earlier, n'.tone ≠ .error := by
  obtain ⟨good, bad, told, hgood, -, ⟨failed, -⟩ | ⟨-, n, -, rfl, tone⟩⟩ := account.told
  · exact absurd failed (by simp)
  · exact ⟨good, n, told, tone, ne_error_of_success hgood⟩

/-- The user hears of a success once for a change that was made. -/
theorem successes (account : Account failure events) :
    (events.filterMap Event.notification?).countP (·.tone = .success)
      = if events.any Event.acknowledges then 1 else 0 := by
  obtain ⟨good, bad, told, hgood, length, ending⟩ := account.told
  have hsuccess : good.countP (·.tone = .success) = good.length := by
    simpa [List.countP_eq_length] using hgood
  rw [told, List.countP_append, hsuccess, length]
  rcases ending with ⟨-, rfl⟩ | ⟨-, n, -, rfl, tone⟩
  · simp
  · simp [tone]

end Account

/-! ## Operations -/

/-- A deletion of the open record that is declined comes to nothing. -/
theorem discardOpen_declined {σ : Type} [Service σ] (s : Session σ History) :
    discardOpen false s = (.ok false, s) := by
  rcases opened : s.state.selectedId with _ | id
  · exact discardOpen_of_none opened
  · rw [discardOpen_of_some opened]
    rfl

/-- **An operation fails once, and says so last.**  It gives an error exactly when a request about
the history has failed, and exactly when the user hears of an error.  It is the error of that one
request; the user hears of it once and last, and nothing more is asked about the history.  A change
that was refused leaves the history as it was.  A page that has not come leaves the records, their
number and the open record as they were just before it was asked for, which is what the history had
heard of by then.  The user hears of one success if the service has made a change, and of none
otherwise; and a deletion that is declined comes to nothing at all. -/
theorem Operation.fails_once {σ : Type} [Service σ] {o : Operation} (remote : o.IsRemote)
    (s : Session σ History) :
    let result := (o.act s).1
    let s' := (o.act s).2
    let events := s.since s'
    let told := events.filterMap Event.notification?
    s'.state = events.foldl hear s.state
    ∧ ((∃ e, result = .error e) ↔ ∃ n ∈ told, n.tone = .error)
    ∧ ((∃ e, result = .error e) ↔ ∃ event ∈ events, event.historyFailure? ≠ none)
    ∧ (∀ e, result = .error e →
        (∃ earlier n, told = earlier ++ [n] ∧ n.tone = .error ∧ ∀ n' ∈ earlier, n'.tone ≠ .error)
        ∧ ∃ before r after, FailsAt events before r e after
          ∧ (r.changes → s'.state = s.state)
          ∧ (∀ q, r = .list q → KeepsList (before.foldl hear s.state) s'.state))
    ∧ told.countP (·.tone = .success) = (if events.any Event.acknowledges then 1 else 0)
    ∧ (∀ id, History.discard id false s = (.ok false, s))
    ∧ History.discardOpen false s = (.ok false, s) := by
  intro result s' events told
  obtain ⟨heardEvents, account, heard⟩ := o.accounts remote s
  obtain rfl : events = heardEvents := heard.since_eq
  have failed_iff {e : ServiceError} : result = .error e ↔ failure? result = some e :=
    failure?_eq_some_iff.symm
  simp only [failed_iff]
  refine ⟨heard.state, account.failed_iff_told, account.failed_iff, fun e failed => ?_,
    account.successes, fun id => rfl, discardOpen_declined s⟩
  change Account (failure? result) events at account
  rw [failed] at account
  rw [heard.state]
  exact ⟨account.told_last, account.failsAt s.state⟩

/-! A deletion that fails late: the record is deleted and the page comes back empty, but the page
before it does not come. -/

/-- A history on page 2, where the last of three records stands alone; the third request will
fail. -/
def failingLate : Session (Scripted Store) History where
  service :=
    { service :=
        { records := [3, 2, 1].map fun id => ⟨id, "", "", .beginner, "", false, ⟨0, 0⟩, none⟩ }
      script := [none, none, some fun _ => .error (.transport "down")] }
  state := (start 2).atPage 2

theorem Operation.fails_once_of_third_request :
    let s' := ((Operation.discard 1 true).act failingLate).2
    let told := (failingLate.since s').filterMap Event.notification?
    (Operation.discard 1 true).IsRemote
    ∧ ((Operation.discard 1 true).act failingLate).1 = .error (.transport "down")
    ∧ (∃ n ∈ told, n.tone = .error)
    ∧ told.countP (·.tone = .success) = 1
    ∧ s'.state.records = [] ∧ s'.state.paging.totalCount = 2 := by
  intro s' told
  obtain ⟨-, errs, -, -, successes, -⟩ :=
    Operation.fails_once (o := .discard 1 true) trivial failingLate
  have failed : ((Operation.discard 1 true).act failingLate).1 = .error (.transport "down") := rfl
  exact ⟨trivial, failed, errs.1 ⟨_, failed⟩, successes, rfl, rfl⟩

end History

end Exposition
