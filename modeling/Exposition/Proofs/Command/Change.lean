import Exposition.Proofs.Command.Effect
import Exposition.Proofs.History.Landing
import Exposition.Service.Scripted

/-!
# Proofs/Command/Change — what the result of a change tells

A command that sets a favorite flag or deletes a record asks for the change and, once the service
has acknowledged it, for the page again; so its result speaks of both requests, and it fails when
either does (`reports_both_requests`).  It need not be the change that has failed
(`reports_failure_of_done`), but whether it has is told: the user hears of a success exactly when
the change was acknowledged.
-/

namespace Exposition

open Exposition.Action

namespace History

/-- **A deletion from page 1** loads one page, since page 1 is never left. -/
theorem discard_on_first {σ : Type} [Service σ] {s : Session σ History} {id : Int}
    (first : s.state.paging.page = 1) {service service' : σ}
    {reply : Except ServiceError Slice}
    (answered : Service.answer (.delete id) s.service = (.ok (), service))
    (listed : Service.answer (.list s.state.query) service = (reply, service')) :
    discard id true s = (reply.map fun _ => true,
      s.after service' ((s.state.forget id).received reply)
        (deleteEvents id ++ pageEvents s.state.query reply)) := by
  have query : (s.state.forget id).query = s.state.query := query_forget s.state id
  rw [← query] at listed ⊢
  rw [discard_ok answered]
  cases reply with
  | error e => exact bind_of_error (load_after listed) _
  | ok slice =>
    have page : ((s.state.forget id).received (.ok slice)).paging.page = 1 :=
      (congrArg Query.page ((received_query ..).trans query)).trans first
    have stays : ((s.state.forget id).received (.ok slice)).fallbackPage = none :=
      fallbackPage_eq_none (page ▸ Nat.le_max_left _ _)
    rw [bind_of_ok (load_after listed), bind_pure_apply, leaveVanishedPage_of_none stays]
    rfl

end History

namespace Command

/-! ## Attempts -/

/-- **A change is attempted**: the service refuses it, or acknowledges it, and then the page is
asked for again. -/
inductive Attempt (change : Request) : Except CommandError Unit → List Event → Prop
  | refused (e : ServiceError) (message : String) :
    Attempt change (.error (.service e)) [.asked change (.error e), .notified (.error message)]
  | acknowledged (answer : change.Answer) (message : String) (q : Query)
    (reply : Except ServiceError Slice) :
    Attempt change ((reply.map fun _ => ()).mapError .service)
      (.asked change (.ok answer) :: .notified (.success message) :: History.pageEvents q reply)

variable {σ : Type} [Service σ] {s : Session σ Unit} (surroundings : Surroundings)

/-- **Setting a favorite flag** is an attempt. -/
theorem markFavorite_attempt (id : Int) (isFavorite : Bool) : ∃ result service events,
    Attempt (.mark id isFavorite) result events
      ∧ markFavorite surroundings id isFavorite s = (result, s.after service () events) := by
  rcases answered : Service.answer (.mark id isFavorite) s.service with ⟨e | message, service⟩
  · exact ⟨_, _, _, .refused e _, apart_apply (History.markFavorite_error answered)⟩
  · rcases listed : Service.answer (.list (History.start surroundings.pageSize).query) service
      with ⟨reply, service'⟩
    exact ⟨_, _, _, .acknowledged message _ _ reply,
      apart_apply (History.markFavorite_apply answered listed)⟩

/-- **Deleting a record** is an attempt, after the question if there is one. -/
theorem discard_attempt (id : Int) {isConfirmed : Bool}
    (confirmed : isConfirmed || isYesLine (Text.byteLines surroundings.input).head?) :
    ∃ result service events, Attempt (.delete id) result events
      ∧ discard surroundings id isConfirmed s = (result, s.after service ()
        ((if isConfirmed then [] else [.printed (confirmation deletionQuestion)]) ++ events)) := by
  have attempt (s : Session σ Unit) : ∃ result service events, Attempt (.delete id) result events
      ∧ onHistory surroundings (History.discard id true) s
        = (result.map fun _ => true, s.after service () events) := by
    rcases answered : Service.answer (.delete id) s.service with ⟨e | ⟨⟩, service⟩
    · exact ⟨_, _, _, .refused e _, apart_apply (History.discard_error answered)⟩
    · rcases listed : Service.answer (.list (History.start surroundings.pageSize).query) service
        with ⟨reply, service'⟩
      refine ⟨_, service', _, .acknowledged () "Explanation deleted successfully"
        (History.start surroundings.pageSize).query reply,
        (apart_apply (History.discard_on_first rfl answered listed)).trans ?_⟩
      cases reply with
      | ok slice => rfl
      | error e => rfl
  obtain ⟨result, service, events, attempted, ends⟩ := attempt (s.after s.service ()
    (if isConfirmed then [] else [.printed (confirmation deletionQuestion)]))
  refine ⟨result, service, events, attempted, ?_⟩
  rw [discard, bind_of_ok (confirmDeletion_apply surroundings isConfirmed), confirmed]
  rw [Session.after_after] at ends
  cases result with
  | error e => exact bind_of_error ends _
  | ok u => exact bind_of_ok ends _

/-- A deletion that is declined is none. -/
theorem discard_declined (id : Int) {isConfirmed : Bool}
    (declined : (isConfirmed || isYesLine (Text.byteLines surroundings.input).head?) = false) :
    discard surroundings id isConfirmed s = (.ok (), s.after s.service ()
      [.printed (confirmation deletionQuestion), .notified (.info "Deletion cancelled")]) := by
  obtain ⟨rfl, -⟩ := Bool.or_eq_false_iff.1 declined
  have keeps (s : Session σ Unit) :
      onHistory surroundings (History.discard id false) s = (.ok false, s) := rfl
  rw [discard, bind_of_ok (confirmDeletion_apply surroundings false), declined,
    bind_of_ok (keeps _)]
  exact (notify_apply ..).trans (by rw [Session.after_after]; rfl)

/-! ## What is told -/

/-- **The service has acknowledged a request.** -/
def Acknowledges (r : Request) (events : List Event) : Prop :=
  ∃ answer, .asked r (.ok answer) ∈ events

/-- **What a command tells of a change**, by its result and its notifications. -/
structure Reports (change : Request) (result : Except CommandError Unit) (events : List Event) :
    Prop where
  /-- The change is asked for once, and no other. -/
  once : (events.filterMap Event.request?).filter Request.changes = [change]
  /-- It is an error exactly when the change was not acknowledged or the page did not come. -/
  fails_iff : (∃ e, result = .error e)
    ↔ ¬ Acknowledges change events ∨ ∃ q e, .asked (.list q) (.error e) ∈ events
  /-- A change that is refused gives its own error, and nothing else is asked for. -/
  refused : ¬ Acknowledges change events → ∃ e, .asked change (.error e) ∈ events
    ∧ result = .error (.service e) ∧ events.filterMap Event.request? = [change]
  /-- The user hears of a success exactly when the change was acknowledged. -/
  told_iff : (∃ n ∈ events.filterMap Event.notification?, n.tone = .success)
    ↔ Acknowledges change events

/-- **An attempt is told as it went.** -/
theorem Attempt.reports {change : Request} (changes : change.changes)
    {result : Except CommandError Unit} {events : List Event}
    (attempt : Attempt change result events) : Reports change result events := by
  cases attempt with
  | refused e message =>
    have refused : ¬ Acknowledges change
        [.asked change (.error e), .notified (.error message)] := by
      rintro ⟨answer, mem⟩
      simp at mem
    refine ⟨by simp [Event.request?, changes], iff_of_true ⟨_, rfl⟩ (.inl refused),
      fun _ => ⟨e, List.mem_cons_self, rfl, rfl⟩, iff_of_false ?_ refused⟩
    rintro ⟨n, mem, tone⟩
    obtain rfl : .error message = n := by simpa [Event.notification?] using mem
    cases tone
  | acknowledged answer message q reply =>
    have acknowledged : Acknowledges change (.asked change (.ok answer) ::
        .notified (.success message) :: History.pageEvents q reply) :=
      ⟨answer, List.mem_cons_self⟩
    have requests : (Event.asked change (.ok answer) ::
        .notified (.success message) :: History.pageEvents q reply).filterMap Event.request?
        = [change, .list q] := by
      cases reply with
      | ok slice => rfl
      | error e => rfl
    refine ⟨?_, ?_, fun refused => absurd acknowledged refused, iff_of_true ?_ acknowledged⟩
    · rw [requests, List.filter_cons_of_pos changes]
      rfl
    · cases reply with
      | ok slice =>
        refine iff_of_false (by rintro ⟨e, failed⟩; cases failed) ?_
        rintro (refused | ⟨q', e, mem⟩)
        · exact refused acknowledged
        -- The one list that was asked for has come, and the change is no list.
        · have asked : .asked (.list q') (.error e)
              ∈ [Event.asked change (.ok answer), .asked (.list q) (.ok slice)] := by
            simpa [History.pageEvents, History.notices] using mem
          cases change with
          | list q'' => cases changes
          | _ => simp at asked
      | error e =>
        refine iff_of_true ⟨_, rfl⟩ (.inr ⟨q, e, ?_⟩)
        exact List.mem_cons_of_mem _ (List.mem_cons_of_mem _ List.mem_cons_self)
    · exact ⟨_, List.mem_cons_self, rfl⟩

/-- Something printed beforehand makes no difference to what is told. -/
theorem Reports.after_printed {change : Request} {result : Except CommandError Unit}
    {events : List Event} (reports : Reports change result events) (text : String) :
    Reports change result (.printed text :: events) := by
  have same (r : Request) (reply : r.Reply) :
      .asked r reply ∈ .printed text :: events ↔ .asked r reply ∈ events := by
    rw [List.mem_cons, or_iff_right (by simp)]
  have acknowledges : Acknowledges change (.printed text :: events)
      ↔ Acknowledges change events := exists_congr fun answer => same change (.ok answer)
  refine ⟨reports.once, ?_, ?_, reports.told_iff.trans acknowledges.symm⟩
  · simp only [acknowledges, same]
    exact reports.fails_iff
  · simp only [acknowledges, same]
    exact reports.refused

/-- **The result of a change speaks of both its requests.**  Setting a favorite flag, and deleting a
record when that is confirmed, ask for the change once and for no other.  The command fails exactly
when the service did not acknowledge the change or the page that was asked for afterwards did not
come.  Without the acknowledgement the error is the service's own and nothing else is asked for; and
a success is notified exactly with it, so that a failure without one leaves the record as it was.  A
deletion that is declined asks for nothing and does not fail. -/
theorem reports_both_requests (s : Session σ Unit) (id : Int) (isFavorite isConfirmed : Bool) :
    let marked := markFavorite surroundings id isFavorite s
    let discarded := discard surroundings id isConfirmed s
    Reports (.mark id isFavorite) marked.1 (s.since marked.2)
    ∧ if isConfirmed || isYesLine (Text.byteLines surroundings.input).head? then
        Reports (.delete id) discarded.1 (s.since discarded.2)
      else discarded.1 = .ok () ∧ (s.since discarded.2).filterMap Event.request? = [] := by
  intro marked discarded
  constructor
  · obtain ⟨result, service, events, attempt, ends⟩ :=
      markFavorite_attempt surroundings id isFavorite (s := s)
    rw [show marked = _ from ends, Session.since_after]
    exact attempt.reports rfl
  · by_cases confirmed : isConfirmed || isYesLine (Text.byteLines surroundings.input).head?
    · rw [if_pos confirmed]
      obtain ⟨result, service, events, attempt, ends⟩ :=
        discard_attempt surroundings id confirmed (s := s)
      rw [show discarded = _ from ends, Session.since_after]
      cases isConfirmed with
      | true => exact attempt.reports rfl
      | false => exact (attempt.reports rfl).after_printed _
    · rw [if_neg confirmed,
        show discarded = _ from discard_declined surroundings id (Bool.eq_false_iff.2 confirmed),
        Session.since_after]
      exact ⟨rfl, rfl⟩

/-! The page does not come, and the command fails, though the record has been changed. -/

/-- A store of one record whose second reply is a failure. -/
def listingFails : Session (Scripted Store) Unit where
  service :=
    { service := { records := [⟨1, "", "", .beginner, "", false, ⟨0, 0⟩, none⟩] }
      script := [none, some fun _ => .error (.transport "connection refused")] }
  state := ()

theorem reports_failure_of_done :
    let marked := markFavorite {} 1 true listingFails
    let discarded := discard {} 1 true listingFails
    (marked.1 = .error (.service (.transport "connection refused"))
      ∧ Acknowledges (.mark 1 true) (listingFails.since marked.2)
      ∧ marked.2.service.service.records.map (fun r => (r.id, r.isFavorite)) = [(1, true)])
    ∧ discarded.1 = .error (.service (.transport "connection refused"))
      ∧ Acknowledges (.delete 1) (listingFails.since discarded.2)
      ∧ discarded.2.service.service.records = [] :=
  ⟨⟨rfl, ⟨_, List.mem_cons_self⟩, rfl⟩, rfl, ⟨_, List.mem_cons_self⟩, rfl⟩

end Command

end Exposition
