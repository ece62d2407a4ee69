import Exposition.Proofs.Archive
import Exposition.Proofs.History.Keeps
import Exposition.Proofs.History.Run

/-!
# Proofs/History/Account — what can pass in an operation, and what it leaves

Whatever the service replies, an operation that works by asking it does little.  It may make one
change, then it loads a page, and after a deletion perhaps another; the first reply that is a
failure ends it.  `Account` lists the ways this can go.

What an operation leaves is told by what has passed: a history **hears** each event (`hear`), and
after the operation it is what it has heard (`Operation.accounts`).  So a law about one operation
that may fail half way is a law about a few lists of events, and "what the history was just before a
request" is what it has heard by then.
-/

namespace Exposition.History

/-! ## Hearing -/

/-- The history where a query asks it to be. -/
def follow (h : History) (q : Query) : History :=
  { h with filters := q.filters, paging := h.paging.atPage q.page }

/-- **The history that has heard of an event**: of a page that was asked for and came or failed to
come, of a change that was made, or of the languages. -/
def hear (h : History) : Event → History
  | .asked (.list q) reply => (h.follow q).received reply
  | .asked (.mark id isFavorite) (.ok _) => h.mark id isFavorite
  | .asked (.delete id) (.ok _) => h.forget id
  | .asked .languages (.ok options) => { h with languages := options }
  | _ => h

/-- A history moves to where its next query asks it to be. -/
theorem Move.follow {h h' : History} (move : Move h h') : h.follow h'.query = h' := by
  cases move with
  | stay =>
    change { h with filters := h.filters, paging := h.paging.atPage h.paging.page } = h
    rw [Paging.atPage_self]
  | refilter filters =>
    change { h with filters, paging := h.paging.atPage (h.paging.atPage 1).page } = h.withFilters _
    rw [Paging.atPage_atPage]
    rfl
  | @turn page first last =>
    change { h with
      filters := h.filters, paging := h.paging.atPage (h.paging.atPage page).page } = _
    rw [Paging.atPage_atPage]
    rfl

theorem hear_pageEvents (h : History) (q : Query) (reply : Except ServiceError Slice) :
    (pageEvents q reply).foldl hear h = (h.follow q).received reply := by
  cases reply with
  | ok slice => rfl
  | error e => rfl

theorem hear_markEvents (h : History) (id : Int) (isFavorite : Bool) (message : String) :
    (markEvents id isFavorite message).foldl hear h = h.mark id isFavorite := rfl

theorem hear_deleteEvents (h : History) (id : Int) :
    (deleteEvents id).foldl hear h = h.forget id := rfl

/-! ## Accounts -/

/-- The error that a result is, if it is one. -/
def failure? {ε α : Type} : Except ε α → Option ε
  | .ok _ => none
  | .error e => some e

theorem failure?_map {ε α β : Type} (f : α → β) (result : Except ε α) :
    failure? (result.map f) = failure? result := by
  cases result with
  | ok a => rfl
  | error e => rfl

theorem failure?_eq_some_iff {ε α : Type} {result : Except ε α} {e : ε} :
    failure? result = some e ↔ result = .error e := by
  cases result with
  | ok a => simp [failure?]
  | error e' => simp [failure?]

/-- Only a page without records is left. -/
theorem records_eq_nil_of_fallback {h : History} {page : Nat} (falls : h.fallbackPage = some page) :
    h.records = [] := by
  simp only [fallbackPage] at falls
  split at falls
  · rename_i vanished
    simp only [Bool.and_eq_true, List.isEmpty_iff] at vanished
    exact vanished.1.1
  · exact absurd falls (by simp)

/-- **What may pass before the last load** of an operation: nothing, a change, or a deletion and a
first load, which has come back empty. -/
inductive Lead : List Event → Prop
  | nothing : Lead []
  | marked (id : Int) (isFavorite : Bool) (message : String) :
    Lead (markEvents id isFavorite message)
  | deleted (id : Int) : Lead (deleteEvents id)
  | emptied (id : Int) (q : Query) {slice : Slice} (empty : slice.records = []) :
    Lead (deleteEvents id ++ pageEvents q (.ok slice))

/-- **What can pass in an operation**, and the error it ends with. -/
inductive Account : Option ServiceError → List Event → Prop
  | nothing : Account none []
  /-- Only the languages are asked for; nobody hears of a failure. -/
  | learned (reply : Except ServiceError (List OfferedLanguage)) :
    Account none [.asked .languages reply]
  /-- A change is refused. -/
  | refused {r : Request} (change : r.changes) (e : ServiceError) (message : String) :
    Account (some e) [.asked r (.error e), .notified (.error message)]
  /-- A page is loaded. -/
  | loaded {before : List Event} (lead : Lead before) (q : Query)
    (reply : Except ServiceError Slice) :
    Account (failure? reply) (before ++ pageEvents q reply)
  /-- A page is loaded and the languages are asked for, also if the page has not come. -/
  | opened (q : Query) (reply : Except ServiceError Slice)
    (reply' : Except ServiceError (List OfferedLanguage)) :
    Account (failure? reply) (pageEvents q reply ++ [.asked .languages reply'])

/-- **The session has moved on and the history has heard all that has passed.** -/
structure Heard {σ : Type} (s : Session σ History) (events : List Event) (s' : Session σ History) :
    Prop where
  transcript : s'.transcript = s.transcript ++ events
  state : s'.state = events.foldl hear s.state

/-- The events that a history has heard of are all that has passed. -/
theorem Heard.since_eq {σ : Type} {s s' : Session σ History} {events : List Event}
    (heard : Heard s events s') : s.since s' = events := by
  rw [Session.since, heard.transcript, List.drop_left]

/-- **An end that is accounted for.** -/
def Accounted {σ α : Type} (s : Session σ History)
    (out : Except ServiceError α × Session σ History) : Prop :=
  ∃ events, Account (failure? out.1) events ∧ Heard s events out.2

namespace Accounted

variable {σ α β : Type} {s s' : Session σ History}

/-- An operation that comes to nothing. -/
theorem nothing (a : α) : Accounted s (.ok a, s) := ⟨[], .nothing, (List.append_nil _).symm, rfl⟩

/-- Another value in the place of the result's. -/
theorem map (f : α → β) {out : Except ServiceError α × Session σ History}
    (accounted : Accounted s out) : Accounted s (out.1.map f, out.2) := by
  obtain ⟨events, account, heard⟩ := accounted
  rw [← failure?_map f] at account
  exact ⟨events, account, heard⟩

variable [Service σ]

/-- **The last load of an operation**, after whatever may have passed before it. -/
theorem of_load {before : List Event} (lead : Lead before) {service : σ} {h h' : History}
    (heard : before.foldl hear s.state = h) (move : Move h h') :
    Accounted s (History.load (s.after service h' before)) := by
  rcases answered : Service.answer (.list h'.query) service with ⟨reply, service'⟩
  rw [load_after answered]
  refine ⟨before ++ pageEvents h'.query reply, ?_, rfl, ?_⟩
  · rw [failure?_map]
    exact .loaded lead _ reply
  · rw [List.foldl_append, heard, hear_pageEvents, move.follow]
    rfl

/-- A load that follows a move. -/
theorem of_move {h : History} (move : Move s.state h) :
    Accounted s (History.load (s.after s.service h [])) := of_load .nothing rfl move

/-! ## Operations -/

variable (s)

theorem load : Accounted s (load s) := by
  have accounted := of_move (s := s) (.stay s.state)
  rwa [Session.after_self] at accounted

theorem learnLanguages : Accounted s (learnLanguages s) := by
  rcases answered : Service.answer .languages s.service with ⟨e | options, service⟩
  · rw [learnLanguages_error answered]
    exact ⟨_, .learned (.error e), rfl, rfl⟩
  · rw [learnLanguages_ok answered]
    exact ⟨_, .learned (.ok options), rfl, rfl⟩

theorem openUp : Accounted s (openUp s) := by
  rw [openUp_apply]
  rcases answered : Service.answer (.list s.state.query) s.service with ⟨reply, service⟩
  rw [load_apply answered]
  have hload : s.state.received reply = (pageEvents s.state.query reply).foldl hear s.state := by
    rw [hear_pageEvents, (Move.stay s.state).follow]
  rcases answered' : Service.answer .languages service with ⟨reply', service'⟩
  refine ⟨pageEvents s.state.query reply ++ [.asked .languages reply'], ?_, ?_⟩
  · rw [failure?_map]
    exact .opened _ reply reply'
  · cases reply' with
    | ok options =>
      rw [learnLanguages_ok answered', Session.after_after]
      refine ⟨rfl, ?_⟩
      rw [List.foldl_append, ← hload]
      rfl
    | error e =>
      rw [learnLanguages_error answered', Session.after_after]
      refine ⟨rfl, ?_⟩
      rw [List.foldl_append, ← hload]
      rfl

theorem filterBy (filters : Filters) : Accounted s (filterBy filters s) := by
  rw [filterBy_apply]
  exact of_move (.refilter s.state filters)

theorem turnBy (delta : Int) : Accounted s (turnBy delta s) := by
  rcases target : s.state.paging.target delta with _ | page
  · rw [turnBy_of_none target]
    exact .nothing false
  · rw [turnBy_of_some target, turnTo_apply]
    exact (of_move (.of_target target)).map _

theorem jumpTo (page : Nat) : Accounted s (jumpTo page s) := by
  by_cases missing : page = 0 ∨ s.state.paging.totalPages < page
  · rw [jumpTo_of_missing missing]
    exact .nothing false
  · rw [jumpTo_of_page missing, turnTo_apply]
    exact (of_move (.turn s.state (by omega) (by omega))).map _

theorem markFavorite (id : Int) (isFavorite : Bool) :
    Accounted s (markFavorite id isFavorite s) := by
  rcases answered : Service.answer (.mark id isFavorite) s.service with ⟨e | message, service⟩
  · rw [markFavorite_error answered]
    exact ⟨_, .refused rfl e _, rfl, rfl⟩
  · rw [markFavorite_ok answered]
    exact of_load (.marked id isFavorite message) (hear_markEvents s.state id isFavorite message)
      (.stay _)

/-- **Leaving a vanished page** after a deletion and a load, which has then come back empty. -/
theorem leaveVanishedPage {id : Int} {service : σ} {h : History} {slice : Slice}
    (heard : (deleteEvents id).foldl hear s.state = h) :
    Accounted s (leaveVanishedPage (s.after service (h.received (.ok slice))
      (deleteEvents id ++ pageEvents h.query (.ok slice)))) := by
  have hloaded : (deleteEvents id ++ pageEvents h.query (.ok slice)).foldl hear s.state
      = h.received (.ok slice) := by
    rw [List.foldl_append, heard, hear_pageEvents, (Move.stay h).follow]
  rcases falls : (h.received (.ok slice)).fallbackPage with _ | page
  · rw [leaveVanishedPage_of_none falls]
    exact ⟨_, .loaded (.deleted id) h.query (.ok slice), rfl, hloaded.symm⟩
  · have empty : slice.records = [] := by
      have hrecords : (h.received (.ok slice)).records = slice.records := by rw [received_ok]
      rw [← hrecords]
      exact records_eq_nil_of_fallback falls
    rw [leaveVanishedPage_of_some falls, turnTo_apply, Session.after_after, List.append_nil]
    exact of_load (.emptied id h.query empty) hloaded (.of_fallback falls)

theorem discard (id : Int) (confirmed : Bool) : Accounted s (discard id confirmed s) := by
  cases confirmed with
  | false => exact .nothing false
  | true =>
    rcases answered : Service.answer (.delete id) s.service with ⟨e | ⟨⟩, service⟩
    · rw [discard_error answered]
      exact ⟨_, .refused rfl e _, rfl, rfl⟩
    · rw [discard_ok answered]
      rcases listed : Service.answer (.list (s.state.forget id).query) service
        with ⟨e | slice, service'⟩
      · have failed : Accounted s (History.load (s.after service (s.state.forget id)
            (deleteEvents id))) := of_load (.deleted id) (hear_deleteEvents s.state id) (.stay _)
        have hload : History.load (s.after service (s.state.forget id) (deleteEvents id))
            = (.error e, _) := load_after listed
        rw [hload] at failed
        rw [Action.bind_of_error hload]
        exact failed
      · rw [Action.bind_of_ok (load_after listed), Action.bind_pure_apply]
        exact (leaveVanishedPage s (hear_deleteEvents s.state id)).map _

theorem toggleOpen : Accounted s (toggleOpen s) := by
  rcases opened : s.state.selected with _ | r
  · rw [toggleOpen_of_none opened]
    exact .nothing false
  · rw [toggleOpen_of_some opened]
    exact (markFavorite s r.id (!r.isFavorite)).map _

/-- Closing the record that was deleted changes nothing any more. -/
theorem discardOpen (confirmed : Bool) : Accounted s (discardOpen confirmed s) := by
  rcases opened : s.state.selectedId with _ | id
  · rw [discardOpen_of_none opened]
    exact .nothing false
  · have accounted := discard s id confirmed
    rw [discardOpen_of_some opened]
    rcases hdiscard : History.discard id confirmed s with ⟨e | _ | _, s'⟩
    · rwa [hdiscard] at accounted
    · rwa [hdiscard] at accounted
    · have closed : s'.state.selected = none := selected_of_discarded opened hdiscard
      have hclosed : s'.after s'.service s'.state.deselect [] = s' := by
        rw [deselect_of_closed closed, Session.after_self]
      rw [hdiscard] at accounted
      rwa [← hclosed] at accounted

end Accounted

/-! ## Operations -/

/-- **An operation that works by asking the service.** -/
def Operation.IsRemote : Operation → Prop
  | .select _ => False
  | .deselect => False
  | .issue => False
  | .settle _ _ => False
  | _ => True

/-- **Every operation that asks the service is accounted for**, whatever the service replies. -/
theorem Operation.accounts {σ : Type} [Service σ] {o : Operation} (remote : o.IsRemote)
    (s : Session σ History) : Accounted s (o.act s) := by
  cases o with
  | openUp => exact .openUp s
  | learnLanguages => exact .learnLanguages s
  | load => exact .load s
  | filterBy filters => exact .filterBy s filters
  | liftFilters => exact .filterBy s {}
  | turnBy delta => exact .turnBy s delta
  | turnForward => exact .turnBy s 1
  | turnBack => exact .turnBy s (-1)
  | jumpTo page => exact .jumpTo s page
  | markFavorite id isFavorite => exact .markFavorite s id isFavorite
  | toggleOpen => exact .toggleOpen s
  | discard id confirmed => exact .discard s id confirmed
  | discardOpen confirmed => exact .discardOpen s confirmed
  | select r => exact remote.elim
  | deselect => exact remote.elim
  | issue => exact remote.elim
  | settle t reply => exact remote.elim

end Exposition.History
