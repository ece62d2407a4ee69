import Exposition.Proofs.History.Effect

/-!
# Proofs/History/Keeps — what actions on the history leave alone

A property of the history is **lasting** if neither a reply, nor another page, nor a change of a
record touches it.  Every action keeps a lasting property, but for those that set filters; two
properties that last are the filters and that no record is open.
-/

namespace Exposition.History

open Exposition.Action

/-- **A lasting property** of the history. -/
structure Lasting (P : History → Prop) : Prop where
  received : ∀ {h} reply, P h → P (h.received reply)
  atPage : ∀ {h} page, P h → P (h.atPage page)
  mark : ∀ {h} id isFavorite, P h → P (h.mark id isFavorite)
  deselect : ∀ {h}, P h → P h.deselect
  learn : ∀ {h} options, P h → P { h with languages := options }

/-- The filters last. -/
theorem Lasting.filters (f : Filters) : Lasting (·.filters = f) where
  received reply same := (congrArg Query.filters (received_query _ reply)).trans same
  atPage _ same := same
  mark _ _ same := same
  deselect same := same
  learn _ same := same

/-- Where no record is open, none is opened. -/
theorem Lasting.closed : Lasting (·.selected = none) where
  received {h} reply closed := by
    cases reply with
    | ok slice => rw [received_ok, closed]; rfl
    | error e => rw [received_error]; exact closed
  atPage _ closed := closed
  mark {h} id isFavorite closed := by
    change h.selected.map _ = none
    rw [closed]
    rfl
  deselect _ := rfl
  learn _ closed := closed

variable {σ : Type} [Service σ] {P : History → Prop}

namespace Lasting

theorem forget (lasting : Lasting P) {h : History} (id : Int) (holds : P h) : P (h.forget id) := by
  rw [History.forget]
  split
  · exact lasting.deselect holds
  · exact holds

theorem load (lasting : Lasting P) : Keeps P (load : Act σ Unit) := fun s holds => by
  rcases answered : Service.answer (.list s.state.query) s.service with ⟨reply, service⟩
  rw [load_apply answered]
  exact lasting.received reply holds

theorem learnLanguages (lasting : Lasting P) : Keeps P (learnLanguages : Act σ Unit) := by
  refine .bind (.ask _) fun reply => ?_
  cases reply with
  | ok options => exact .update fun h => lasting.learn options
  | error e => exact .pure ()

theorem openUp (lasting : Lasting P) : Keeps P (openUp : Act σ Unit) := by
  refine .bind lasting.load.attempt fun loaded => .bind lasting.learnLanguages fun _ => ?_
  cases loaded with
  | ok _ => exact .pure ()
  | error e => exact .throw e

theorem turnTo (lasting : Lasting P) (page : Nat) : Keeps P (turnTo page : Act σ Unit) :=
  .bind (.update fun _ => lasting.atPage page) fun _ => lasting.load

theorem turnBy (lasting : Lasting P) (delta : Int) : Keeps P (turnBy delta : Act σ Bool) := by
  refine .bind .state fun h => ?_
  cases h.paging.target delta with
  | none => exact .pure false
  | some page => exact .bind (lasting.turnTo page) fun _ => .pure true

theorem jumpTo (lasting : Lasting P) (page : Nat) : Keeps P (jumpTo page : Act σ Bool) := by
  refine .bind .state fun h => ?_
  by_cases missing : page = 0 ∨ h.paging.totalPages < page
  · rw [if_pos missing]
    exact .pure false
  · rw [if_neg missing]
    exact .bind (lasting.turnTo page) fun _ => .pure true

theorem markFavorite (lasting : Lasting P) (id : Int) (isFavorite : Bool) :
    Keeps P (markFavorite id isFavorite : Act σ Unit) := by
  refine .bind (.ask _) fun reply => ?_
  cases reply with
  | ok message =>
    exact .bind (.notify _) fun _ =>
      .bind (.update fun _ => lasting.mark id isFavorite) fun _ => lasting.load
  | error e => exact .bind (.notify _) fun _ => .throw e

theorem leaveVanishedPage (lasting : Lasting P) : Keeps P (leaveVanishedPage : Act σ Unit) := by
  refine .bind .state fun h => ?_
  cases h.fallbackPage with
  | none => exact .pure ()
  | some page => exact lasting.turnTo page

theorem discard (lasting : Lasting P) (id : Int) (confirmed : Bool) :
    Keeps P (discard id confirmed : Act σ Bool) := by
  cases confirmed with
  | false => exact .pure false
  | true =>
    refine .bind (.ask _) fun reply => ?_
    cases reply with
    | ok _ =>
      exact .bind (.notify _) fun _ => .bind (.update fun _ => lasting.forget id) fun _ =>
        .bind lasting.load fun _ => .bind lasting.leaveVanishedPage fun _ => .pure true
    | error e => exact .bind (.notify _) fun _ => .throw e

theorem toggleOpen (lasting : Lasting P) : Keeps P (toggleOpen : Act σ Bool) := by
  refine .bind .state fun h => ?_
  cases h.selected with
  | none => exact .pure false
  | some r => exact .bind (lasting.markFavorite r.id (!r.isFavorite)) fun _ => .pure true

theorem discardOpen (lasting : Lasting P) (confirmed : Bool) :
    Keeps P (discardOpen confirmed : Act σ Bool) := by
  refine .bind .state fun h => ?_
  cases h.selectedId with
  | none => exact .pure false
  | some id =>
    refine .bind (lasting.discard id confirmed) fun deleted => ?_
    cases deleted with
    | false => exact .pure false
    | true => exact .bind (.update fun _ => lasting.deselect) fun _ => .pure true

end Lasting

/-- **A record that was open and is deleted is closed**, whatever becomes of the loads after it. -/
theorem discard_closes {s : Session σ History} {id : Int} {service : σ}
    (opened : s.state.selectedId = some id)
    (answered : Service.answer (.delete id) s.service = (.ok (), service)) :
    (discard id true s).2.state.selected = none := by
  have closed : (s.state.forget id).selected = none := by
    rw [forget_eq, if_pos opened]
  rw [discard_ok answered]
  have keeps : Keeps (·.selected = none)
      (load >>= fun _ => leaveVanishedPage >>= fun _ => pure true : Act σ Bool) :=
    .bind Lasting.closed.load fun _ => .bind Lasting.closed.leaveVanishedPage fun _ => .pure true
  exact keeps _ closed

/-- A deletion that is done has closed the record that was open. -/
theorem selected_of_discarded {s s' : Session σ History} {id : Int} {confirmed : Bool}
    (opened : s.state.selectedId = some id) (done : discard id confirmed s = (.ok true, s')) :
    s'.state.selected = none := by
  cases confirmed with
  | false => exact absurd (congrArg Prod.fst done) (by simp [discard, Action.pure_apply])
  | true =>
    rcases answered : Service.answer (.delete id) s.service with ⟨e | ⟨⟩, service⟩
    · rw [discard_error answered] at done
      exact absurd (congrArg Prod.fst done) (by simp)
    · have closed := discard_closes opened answered
      rwa [done] at closed

theorem deselect_of_closed {h : History} (closed : h.selected = none) : h.deselect = h := by
  rw [deselect, ← closed]

/-- Setting filters leaves those filters. -/
theorem filterBy_filters (f : Filters) (s : Session σ History) :
    (filterBy f s).2.state.filters = f := by
  rw [filterBy_apply]
  exact (Lasting.filters f).load _ rfl

end Exposition.History
