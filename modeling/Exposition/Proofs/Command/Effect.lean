import Exposition.Command.Run
import Exposition.Proofs.History.Effect

/-!
# Proofs/Command/Effect — what a command does with a state of its own

A command has no state; where it works on a history or a browser, that begins anew, and what is left
of it in the end is the result, the service and the transcript (`apart_apply`).  A command that
lists the history goes by way of page 1: what comes with that page tells whether there is the page
that is wanted, and with it comes the other if there is (`loadPage_ok`, `goOn_of_page`).
-/

namespace Exposition.Command

open Exposition.Action

variable {σ : Type}

section Apart

variable {s : Session σ Unit}

/-- An action on a state of its own ends as it does, with its error among those of a command. -/
theorem apart_apply {ε κ α : Type} {f : ε → CommandError} {k : κ} {act : Action ε σ κ α}
    {result : Except ε α} {s' : Session σ κ} (ends : act (s.withState k) = (result, s')) :
    (startingFrom k (mapError f act) : Act σ α) s = (result.mapError f, s'.withState ()) := by
  rw [startingFrom, mapError, ends]

/-- **The question before a deletion** is put unless it was answered beforehand; either way the
command knows whether to delete. -/
theorem confirmDeletion_apply (surroundings : Surroundings) (isConfirmed : Bool) :
    (confirmDeletion surroundings isConfirmed : Act σ Bool) s
      = (.ok (isConfirmed || isYesLine (Text.byteLines surroundings.input).head?),
        s.after s.service ()
          (if isConfirmed then [] else [.printed (confirmation deletionQuestion)])) := by
  cases isConfirmed with
  | true => exact Prod.ext rfl s.after_self.symm
  | false => rfl

end Apart

variable [Service σ] {o : HistoryOptions} {service : σ} {h : History} {events : List Event}

/-! ## Loading a page -/

section Loading

variable {s : Session σ History} {page : Nat}

/-- Goes on to a page from page 1; gives whether there is such a page, and the history. -/
def goOn (page : Nat) : History.Act σ (Bool × History) := do
  let found ← if 1 < page then History.jumpTo page else pure true
  return (found, ← Action.state)

/-- Page 1 is where one is. -/
theorem goOn_of_first (first : ¬ 1 < page) : goOn page s = (.ok (true, s.state), s) := by
  rw [goOn, if_neg first]
  rfl

/-- Nothing is asked for if there is no such page. -/
theorem goOn_of_missing (later : 1 < page) (missing : s.state.paging.totalPages < page) :
    goOn page s = (.ok (false, s.state), s) := by
  rw [goOn, if_pos later, bind_of_ok (History.jumpTo_of_missing (.inr missing))]
  rfl

/-- A page that exists is asked for as well. -/
theorem goOn_of_page (later : 1 < page) (there : page ≤ h.paging.totalPages) {service' : σ}
    {reply : Except ServiceError Slice}
    (answered : Service.answer (.list (h.atPage page).query) service = (reply, service')) :
    goOn page (s.after service h events)
      = (reply.map fun _ => (true, (h.atPage page).received reply),
        s.after service' ((h.atPage page).received reply)
          (events ++ History.pageEvents (h.atPage page).query reply)) := by
  have there' : ¬ (page = 0 ∨ h.paging.totalPages < page) := by omega
  have jumps := History.jumpTo_of_page (s := s.after service h events) there'
  rw [History.turnTo_apply, Session.after_after, Session.after_service, Session.after_state,
    History.load_after answered, List.append_nil] at jumps
  rw [goOn, if_pos later]
  cases reply with
  | ok slice => exact bind_of_ok jumps _
  | error e => exact bind_of_error jumps _

/-- Page 1 does not come. -/
theorem loadPage_error {e : ServiceError}
    (answered : Service.answer (.list (s.state.withFilters o.filters).query) s.service
      = (.error e, service)) :
    loadPage o s = (.error e, s.after service ((s.state.withFilters o.filters).received (.error e))
      (History.pageEvents (s.state.withFilters o.filters).query (.error e))) := by
  refine bind_of_error ?_ _
  rw [History.filterBy_apply, History.load_after answered, List.nil_append]
  rfl

/-- Once page 1 has come, one goes on from there. -/
theorem loadPage_ok {slice : Slice}
    (answered : Service.answer (.list (s.state.withFilters o.filters).query) s.service
      = (.ok slice, service)) :
    loadPage o s = goOn o.page
      (s.after service ((s.state.withFilters o.filters).received (.ok slice))
        [.asked (.list (s.state.withFilters o.filters).query) (.ok slice)]) := by
  refine bind_of_ok (a := ()) ?_ _
  rw [History.filterBy_apply, History.load_after answered, List.nil_append]
  rfl

end Loading

/-! ## Listing it -/

section Listing

variable {surroundings : Surroundings} {s : Session σ Unit}

theorem listHistory_error {e : ServiceError}
    (fails : loadPage o (s.withState (.start surroundings.pageSize))
      = (.error e, (s.withState (.start surroundings.pageSize)).after service h events)) :
    listHistory surroundings o s = (.error (.service e), s.after service () events) :=
  bind_of_error (apart_apply fails) _

/-- A page that was found is printed. -/
theorem listHistory_of_found
    (found : loadPage o (s.withState (.start surroundings.pageSize))
      = (.ok (true, h), (s.withState (.start surroundings.pageSize)).after service h events)) :
    listHistory surroundings o s
      = (.ok (), s.after service () (events ++ [.printed h.listing])) := by
  have prints : listHistory surroundings o s = Action.print h.listing (s.after service () events) :=
    bind_of_ok (apart_apply found) _
  rw [prints, ← Session.after_after]
  rfl

/-- Without the page nothing is printed. -/
theorem listHistory_of_missing
    (missing : loadPage o (s.withState (.start surroundings.pageSize))
      = (.ok (false, h), (s.withState (.start surroundings.pageSize)).after service h events)) :
    listHistory surroundings o s
      = (.error (.refused (.noPage o.page h.paging.totalPages)), s.after service () events) :=
  bind_of_ok (apart_apply missing) _

end Listing

end Exposition.Command
