import Exposition.History.Action
import Exposition.Proofs.Session.Effect

/-!
# Proofs/History/Effect — what each action on the history comes to

Every action that shows a page ends in `load`, and `load` is one exchange with the service: it asks
for the query of the state it starts from and leaves the state that has `received` the reply
(`load_apply`).  The other actions are read off it, one equation for each way they can go.
-/

namespace Exposition.History

/-! ## A reply to the newest ticket -/

/-- **The history that has received a reply** to a ticket issued just before. -/
def received (h : History) (reply : Except ServiceError Slice) : History :=
  (h.issue.2.settle h.issue.1 reply).2

/-- What the user hears of a reply: nothing, unless it is a failure. -/
def notices : Except ServiceError Slice → List Event
  | .ok _ => []
  | .error _ => [.notified (.error "Failed to load history")]

/-- What passes when a page is asked for and the reply comes. -/
def pageEvents (q : Query) (reply : Except ServiceError Slice) : List Event :=
  .asked (.list q) reply :: notices reply

/-- A ticket is not late while it is the newest. -/
theorem not_issue_late (h : History) : ¬ h.issue.1.number < h.issue.2.issued := Nat.lt_irrefl _

/-- **A late reply changes nothing.** -/
theorem settle_of_late {h : History} {t : Ticket} (late : t.number < h.issued)
    (reply : Except ServiceError Slice) : h.settle t reply = (.stale, h) := by
  unfold settle
  rw [if_pos late]

theorem settle_ok {h : History} {t : Ticket} (timely : ¬ t.number < h.issued) (slice : Slice) :
    h.settle t (.ok slice) = (.applied, h.apply slice) := by
  rw [settle, if_neg timely]

theorem settle_error {h : History} {t : Ticket} (timely : ¬ t.number < h.issued)
    (e : ServiceError) :
    h.settle t (.error e) = (.failed e, { h with view := .failed loadFailure }) := by
  rw [settle, if_neg timely]

theorem received_ok (h : History) (slice : Slice) : h.received (.ok slice)
    = { h with
        paging := h.paging.withTotal slice.totalCount
        records := slice.records
        selected := refreshed slice.records h.selected
        view := if slice.records.isEmpty then .empty else .items
        issued := h.issued + 1 } := by
  rw [received, settle_ok h.not_issue_late]
  rfl

theorem received_error (h : History) (e : ServiceError) : h.received (.error e)
    = { h with view := .failed loadFailure, issued := h.issued + 1 } := by
  rw [received, settle_error h.not_issue_late]
  rfl

section Received

variable (h : History) (reply : Except ServiceError Slice)

@[simp] theorem received_issued : (h.received reply).issued = h.issued + 1 := by
  cases reply with
  | ok slice => rw [received_ok]
  | error e => rw [received_error]

@[simp] theorem received_query : (h.received reply).query = h.query := by
  cases reply with
  | ok slice => rw [received_ok]; rfl
  | error e => rw [received_error]; rfl

end Received

/-! ## Forgetting a record -/

/-- Forgetting a record closes it if it is open, and does nothing else. -/
theorem forget_eq (h : History) (id : Int) : h.forget id
    = { h with selected := if h.selectedId = some id then none else h.selected } := by
  rw [forget]
  split
  · rfl
  · rfl

theorem query_forget (h : History) (id : Int) : (h.forget id).query = h.query := by
  rw [forget_eq]
  rfl

theorem issued_forget (h : History) (id : Int) : (h.forget id).issued = h.issued := by
  rw [forget_eq]

theorem selectedId_forget (h : History) (id : Int) :
    (h.forget id).selectedId = if h.selectedId = some id then none else h.selectedId := by
  rw [forget_eq, selectedId]
  split
  · rfl
  · rfl

/-! ## The actions -/

variable {σ : Type}

theorem issueTicket_apply (s : Session σ History) :
    issueTicket s = (.ok s.state.issue.1, s.after s.service s.state.issue.2 []) := by
  simp only [issueTicket, Action.bind_apply, Action.state_apply, Action.update_apply,
    Action.pure_apply]

theorem settleTicket_of_late {s : Session σ History} {t : Ticket} (late : t.number < s.state.issued)
    (reply : Except ServiceError Slice) : settleTicket t reply s = (.ok .stale, s) := by
  simp only [settleTicket, Action.bind_apply, Action.state_apply, settle_of_late late,
    Action.update_apply, Action.pure_apply, Session.after_self]

/-- A timely reply takes effect, and the user hears of it if it is a failure. -/
theorem settleTicket_of_timely {s : Session σ History} {t : Ticket}
    (timely : ¬ t.number < s.state.issued) (reply : Except ServiceError Slice) :
    settleTicket t reply s = (.ok (s.state.settle t reply).1,
      s.after s.service (s.state.settle t reply).2 (notices reply)) := by
  cases reply with
  | ok slice =>
    simp only [settleTicket, Action.bind_apply, Action.state_apply, settle_ok timely,
      Action.update_apply, Action.pure_apply, notices]
  | error e =>
    simp only [settleTicket, Action.bind_apply, Action.state_apply, settle_error timely,
      Action.update_apply, Action.notify_apply, Action.pure_apply, notices, Session.after_after,
      Session.after_service, Session.after_state, List.nil_append]

variable [Service σ] {s : Session σ History}

/-- **Loading a page is one exchange**: the query of the state goes out, and the reply is
received. -/
theorem load_apply {reply : Except ServiceError Slice} {service : σ}
    (answered : Service.answer (.list s.state.query) s.service = (reply, service)) :
    load s = (reply.map fun _ => (),
      s.after service (s.state.received reply) (pageEvents s.state.query reply)) := by
  have hask : Action.ask (.list s.state.issue.1.query) (s.after s.service s.state.issue.2 [])
      = (Except.ok (ε := ServiceError) reply,
        s.after service s.state.issue.2 [.asked (.list s.state.query) reply]) := by
    change Action.ask (.list s.state.query) _ = _
    rw [Action.ask_apply, Session.after_service, answered, Session.after_after,
      Session.after_state, List.nil_append]
  rw [load, Action.bind_of_ok (issueTicket_apply s), Action.bind_of_ok hask,
    Action.bind_of_ok (settleTicket_of_timely s.state.not_issue_late reply), Session.after_after,
    Session.after_state]
  cases reply with
  | ok slice => rw [received, settle_ok s.state.not_issue_late]; rfl
  | error e => rw [received, settle_error s.state.not_issue_late]; rfl

/-- Loading a page from a state that has only just come about. -/
theorem load_after {h : History} {reply : Except ServiceError Slice} {service service' : σ}
    {events : List Event} (answered : Service.answer (.list h.query) service = (reply, service')) :
    load (s.after service h events) = (reply.map fun _ => (),
      s.after service' (h.received reply) (events ++ pageEvents h.query reply)) := by
  rw [load_apply answered, Session.after_state, Session.after_after]

theorem filterBy_apply (f : Filters) :
    filterBy f s = load (s.after s.service (s.state.withFilters f) []) :=
  Action.bind_of_ok (Action.update_apply ..) _

theorem turnTo_apply (page : Nat) :
    turnTo page s = load (s.after s.service (s.state.atPage page) []) :=
  Action.bind_of_ok (Action.update_apply ..) _

/-! Turning pages loads a page if there is such a page, and does nothing else. -/

theorem turnBy_of_none {delta : Int} (nowhere : s.state.paging.target delta = none) :
    turnBy delta s = (.ok false, s) := by
  simp only [turnBy, Action.bind_apply, Action.state_apply, nowhere, Action.pure_apply]

theorem turnBy_of_some {delta : Int} {page : Nat}
    (somewhere : s.state.paging.target delta = some page) :
    turnBy delta s = ((turnTo page s).1.map fun _ => true, (turnTo page s).2) := by
  rw [turnBy, Action.bind_of_ok (Action.state_apply s), somewhere]
  exact Action.bind_pure_apply s (turnTo page) fun _ => true

theorem jumpTo_of_missing {page : Nat} (missing : page = 0 ∨ s.state.paging.totalPages < page) :
    jumpTo page s = (.ok false, s) := by
  simp only [jumpTo, Action.bind_apply, Action.state_apply, if_pos missing, Action.pure_apply]

theorem jumpTo_of_page {page : Nat} (there : ¬(page = 0 ∨ s.state.paging.totalPages < page)) :
    jumpTo page s = ((turnTo page s).1.map fun _ => true, (turnTo page s).2) := by
  rw [jumpTo, Action.bind_of_ok (Action.state_apply s), if_neg there]
  exact Action.bind_pure_apply s (turnTo page) fun _ => true

/-! Learning the languages never fails; opening up gives what its load has given. -/

theorem learnLanguages_ok {options : List OfferedLanguage} {service : σ}
    (answered : Service.answer .languages s.service = (.ok options, service)) :
    learnLanguages s = (.ok (), s.after service { s.state with languages := options }
      [.asked .languages (.ok options)]) := by
  simp only [learnLanguages, Action.bind_apply, Action.ask_apply, answered, Action.update_apply,
    Session.after_after, Session.after_service, Session.after_state, List.append_nil]

theorem learnLanguages_error {e : ServiceError} {service : σ}
    (answered : Service.answer .languages s.service = (.error e, service)) :
    learnLanguages s = (.ok (), s.after service s.state [.asked .languages (.error e)]) := by
  simp only [learnLanguages, Action.bind_apply, Action.ask_apply, answered, Action.pure_apply]

theorem openUp_apply : openUp s = ((load s).1, (learnLanguages (load s).2).2) := by
  have hlearn (s' : Session σ History) : learnLanguages s' = (.ok (), (learnLanguages s').2) := by
    rcases answered : Service.answer .languages s'.service with ⟨e | options, service⟩
    · rw [learnLanguages_error answered]
    · rw [learnLanguages_ok answered]
  have hload : Action.attempt (δ := ServiceError) load s = (.ok (load s).1, (load s).2) := rfl
  rw [openUp, Action.bind_of_ok hload, Action.bind_of_ok (hlearn _)]
  rcases (load s).1 with e | u
  · rfl
  · rfl

/-! ## Favorites and deletions -/

/-- What passes when a favorite flag is set. -/
def markEvents (id : Int) (isFavorite : Bool) (message : String) : List Event :=
  [.asked (.mark id isFavorite) (.ok message),
    .notified (.success (if Text.blank message then "Favorite status updated" else message))]

/-- What passes when a record is deleted. -/
def deleteEvents (id : Int) : List Event :=
  [.asked (.delete id) (.ok ()), .notified (.success "Explanation deleted successfully")]

theorem markFavorite_ok {id : Int} {isFavorite : Bool} {message : String} {service : σ}
    (answered : Service.answer (.mark id isFavorite) s.service = (.ok message, service)) :
    markFavorite id isFavorite s
      = load (s.after service (s.state.mark id isFavorite) (markEvents id isFavorite message)) := by
  simp only [markFavorite, Action.bind_apply, Action.ask_apply, answered, Action.notify_apply,
    Action.update_apply, Session.after_after, Session.after_service, Session.after_state,
    List.append_nil]
  rfl

theorem markFavorite_apply {id : Int} {isFavorite : Bool} {message : String} {service : σ}
    (answered : Service.answer (.mark id isFavorite) s.service = (.ok message, service))
    {reply : Except ServiceError Slice} {service' : σ}
    (listed : Service.answer (.list s.state.query) service = (reply, service')) :
    markFavorite id isFavorite s = (reply.map fun _ => (),
      s.after service' ((s.state.mark id isFavorite).received reply)
        (markEvents id isFavorite message ++ pageEvents s.state.query reply)) :=
  (markFavorite_ok answered).trans (load_after listed)

/-- A favorite flag that the service has not set is left alone. -/
theorem markFavorite_error {id : Int} {isFavorite : Bool} {e : ServiceError} {service : σ}
    (answered : Service.answer (.mark id isFavorite) s.service = (.error e, service)) :
    markFavorite id isFavorite s = (.error e, s.after service s.state
      [.asked (.mark id isFavorite) (.error e),
        .notified (.error "Failed to update favorite status")]) := by
  simp only [markFavorite, Action.bind_apply, Action.ask_apply, answered, Action.notify_apply,
    Action.throw_apply, Session.after_after, Session.after_service, Session.after_state]
  rfl

theorem leaveVanishedPage_of_none (stays : s.state.fallbackPage = none) :
    leaveVanishedPage s = (.ok (), s) := by
  simp only [leaveVanishedPage, Action.bind_apply, Action.state_apply, stays, Action.pure_apply]

theorem leaveVanishedPage_of_some {page : Nat} (falls : s.state.fallbackPage = some page) :
    leaveVanishedPage s = turnTo page s := by
  rw [leaveVanishedPage, Action.bind_of_ok (Action.state_apply s), falls]

theorem leaveVanishedPage_apply {page : Nat} (falls : s.state.fallbackPage = some page)
    {reply : Except ServiceError Slice} {service : σ}
    (answered : Service.answer (.list (s.state.atPage page).query) s.service = (reply, service)) :
    leaveVanishedPage s = (reply.map fun _ => (),
      s.after service ((s.state.atPage page).received reply)
        (pageEvents (s.state.atPage page).query reply)) := by
  rw [leaveVanishedPage_of_some falls, turnTo_apply, load_after answered, List.nil_append]

/-- A record that the service has not deleted stays. -/
theorem discard_error {id : Int} {e : ServiceError} {service : σ}
    (answered : Service.answer (.delete id) s.service = (.error e, service)) :
    discard id true s = (.error e, s.after service s.state
      [.asked (.delete id) (.error e), .notified (.error "Failed to delete explanation")]) := by
  simp only [discard, if_true, Action.bind_apply, Action.ask_apply, answered, Action.notify_apply,
    Action.throw_apply, Session.after_after, Session.after_service, Session.after_state]
  rfl

/-- **A deletion** forgets the record, loads the page again and leaves it if it has vanished. -/
theorem discard_ok {id : Int} {service : σ}
    (answered : Service.answer (.delete id) s.service = (.ok (), service)) :
    discard id true s
      = (load >>= fun _ => leaveVanishedPage >>= fun _ => pure true)
        (s.after service (s.state.forget id) (deleteEvents id)) := by
  simp only [discard, if_true, Action.bind_apply, Action.ask_apply, answered, Action.notify_apply,
    Action.update_apply, Session.after_after, Session.after_service, Session.after_state,
    List.append_nil]
  rfl

theorem toggleOpen_of_none (closed : s.state.selected = none) :
    toggleOpen s = (.ok false, s) := by
  simp only [toggleOpen, Action.bind_apply, Action.state_apply, closed, Action.pure_apply]

theorem toggleOpen_of_some {r : Record} (opened : s.state.selected = some r) :
    toggleOpen s = ((markFavorite r.id (!r.isFavorite) s).1.map fun _ => true,
      (markFavorite r.id (!r.isFavorite) s).2) := by
  rw [toggleOpen, Action.bind_of_ok (Action.state_apply s), opened]
  exact Action.bind_pure_apply s (markFavorite r.id (!r.isFavorite)) fun _ => true

theorem discardOpen_of_none {confirmed : Bool} (closed : s.state.selectedId = none) :
    discardOpen confirmed s = (.ok false, s) := by
  simp only [discardOpen, Action.bind_apply, Action.state_apply, closed, Action.pure_apply]

/-- Deleting the open record closes it, once it is deleted. -/
theorem discardOpen_of_some {confirmed : Bool} {id : Int} (opened : s.state.selectedId = some id) :
    discardOpen confirmed s = match discard id confirmed s with
      | (.ok true, s') => (.ok true, s'.after s'.service s'.state.deselect [])
      | (.ok false, s') => (.ok false, s')
      | (.error e, s') => (.error e, s') := by
  simp only [discardOpen, Action.bind_apply, Action.state_apply, opened]
  rcases discard id confirmed s with ⟨e | _ | _, s'⟩
  · rfl
  · rfl
  · simp only [if_true, Action.bind_apply, Action.update_apply, Action.pure_apply]

/-- Nothing passes when the open record is closed. -/
theorem discardOpen_transcript {confirmed : Bool} {id : Int}
    (opened : s.state.selectedId = some id) :
    (discardOpen confirmed s).2.transcript = (discard id confirmed s).2.transcript := by
  rw [discardOpen_of_some opened]
  rcases discard id confirmed s with ⟨e | _ | _, s'⟩
  · rfl
  · rfl
  · exact List.append_nil _

end Exposition.History
