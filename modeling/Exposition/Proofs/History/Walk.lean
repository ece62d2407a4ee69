import Exposition.Proofs.History.Effect
import Exposition.Proofs.Paging.Pages

/-!
# Proofs/History/Walk — an action is a walk of whole strides

Between two strides a history is at rest: the query of its newest ticket is the query of its state.
A **stride** is the least that takes it from rest to rest, and its main kind is a move and the load
that follows it: pages and filters never change without one.  What every stride keeps, every action
keeps (`Walks`), so an invariant is shown for four kinds of stride and not for a dozen actions.

A walk says which requests it may make besides those for pages, since some invariants survive a
request for languages and not a deletion.
-/

namespace Exposition.History

/-! ## Moves -/

/-- **Where the next page may be asked for**: here, on page 1 under other filters, or on a page that
the last answer knows of. -/
inductive Move : History → History → Prop
  | stay (h : History) : Move h h
  | refilter (h : History) (filters : Filters) : Move h (h.withFilters filters)
  | turn (h : History) {page : Nat} (first : 1 ≤ page) (last : page ≤ max 1 h.paging.totalPages) :
    Move h (h.atPage page)

namespace Move

variable {h h' : History}

/-- **A move leaves the last answer alone.** -/
theorem kept (move : Move h h') : h'.records = h.records
    ∧ h'.paging.totalCount = h.paging.totalCount ∧ h'.paging.perPage = h.paging.perPage
    ∧ h'.selected = h.selected ∧ h'.issued = h.issued := by
  cases move with
  | stay => exact ⟨rfl, rfl, rfl, rfl, rfl⟩
  | refilter => exact ⟨rfl, rfl, rfl, rfl, rfl⟩
  | turn => exact ⟨rfl, rfl, rfl, rfl, rfl⟩

/-- The page that a control turns to. -/
theorem of_target {delta : Int} {page : Nat} (somewhere : h.paging.target delta = some page) :
    Move h (h.atPage page) := by
  obtain ⟨first, last⟩ := Paging.of_target_eq_some somewhere
  exact .turn h first (Nat.le_trans last (Nat.le_max_right _ _))

/-- The page that a vanished one falls back to. -/
theorem of_fallback {page : Nat} (falls : h.fallbackPage = some page) : Move h (h.atPage page) := by
  simp only [fallbackPage] at falls
  split at falls
  · obtain rfl : max h.paging.totalPages 1 = page := Option.some.inj falls
    exact .turn h (Nat.le_max_right _ _) (Nat.le_of_eq (Nat.max_comm _ _))
  · exact absurd falls (by simp)

end Move

/-! ## Strides and walks -/

variable {σ : Type} [Service σ] {allowed : Request → Prop}

/-- **A stride**, and what passes meanwhile. -/
inductive Stride (allowed : Request → Prop) :
    Session σ History → List Event → Session σ History → Prop
  /-- A move, and the load that follows it. -/
  | fetch {s : Session σ History} {h : History} {reply : Except ServiceError Slice} {service : σ}
    (move : Move s.state h)
    (answered : Service.answer (.list h.query) s.service = (reply, service)) :
    Stride allowed s (pageEvents h.query reply)
      (s.after service (h.received reply) (pageEvents h.query reply))
  /-- Another request. -/
  | exchange {s : Session σ History} {r : Request} {reply : r.Reply} {service : σ} (may : allowed r)
    (answered : Service.answer r s.service = (reply, service)) :
    Stride allowed s [.asked r reply] (s.after service s.state [.asked r reply])
  /-- A notification. -/
  | tell (s : Session σ History) (n : Notification) :
    Stride allowed s [.notified n] (s.after s.service s.state [.notified n])
  /-- A change that has nothing to do with the list. -/
  | aside (s : Session σ History) (selected : Option Record) (languages : List OfferedLanguage) :
    Stride allowed s [] (s.after s.service { s.state with selected, languages } [])

/-- **Strides, one after the other**, and what passes meanwhile. -/
inductive Walk (allowed : Request → Prop) :
    Session σ History → List Event → Session σ History → Prop
  | rest (s : Session σ History) : Walk allowed s [] s
  | on {s s' s'' : Session σ History} {events events' : List Event}
    (walk : Walk allowed s events s') (stride : Stride allowed s' events' s'') :
    Walk allowed s (events ++ events') s''

theorem Stride.transcript {s s' : Session σ History} {events : List Event}
    (stride : Stride allowed s events s') : s'.transcript = s.transcript ++ events := by
  cases stride with
  | fetch => rfl
  | exchange => rfl
  | tell => rfl
  | aside => rfl

namespace Walk

variable {s s' s'' : Session σ History} {events events' : List Event}

theorem transcript (walk : Walk allowed s events s') :
    s'.transcript = s.transcript ++ events := by
  induction walk with
  | rest => rw [List.append_nil]
  | on _ stride ih => rw [stride.transcript, ih, List.append_assoc]

/-- The events of a walk are all that has passed. -/
theorem since_eq (walk : Walk allowed s events s') : s.since s' = events := by
  rw [Session.since, walk.transcript, List.drop_left]

theorem of_stride (stride : Stride allowed s events s') : Walk allowed s events s' := by
  simpa using (rest s).on stride

theorem trans (walk : Walk allowed s events s') (walk' : Walk allowed s' events' s'') :
    Walk allowed s (events ++ events') s'' := by
  induction walk' with
  | rest => rwa [List.append_nil]
  | on _ stride ih => rw [← List.append_assoc]; exact ih.on stride

/-- A load that follows a move is one stride. -/
theorem load_after {h : History} (move : Move s.state h) :
    ∃ events, Walk allowed s events (load (s.after s.service h [])).2 := by
  rcases answered : Service.answer (.list h.query) s.service with ⟨reply, service⟩
  rw [History.load_after answered]
  exact ⟨_, of_stride (.fetch move answered)⟩

end Walk

/-! ## Actions -/

variable {ε α β : Type}

/-- **An action that is a walk**, wherever it starts. -/
def Walks (allowed : Request → Prop) (act : Action ε σ History α) : Prop :=
  ∀ s, ∃ events, Walk allowed s events (act s).2

namespace Walks

theorem bind {act : Action ε σ History α} {next : α → Action ε σ History β}
    (hact : Walks allowed act) (hnext : ∀ a, Walks allowed (next a)) :
    Walks allowed (act >>= next) := fun s => by
  obtain ⟨events, walk⟩ := hact s
  rw [Action.bind_apply]
  rcases h : act s with ⟨e | a, s'⟩
  · rw [h] at walk
    exact ⟨events, walk⟩
  · rw [h] at walk
    obtain ⟨events', walk'⟩ := hnext a s'
    exact ⟨events ++ events', walk.trans walk'⟩

theorem pure (a : α) : Walks allowed (pure a : Action ε σ History α) := fun s => ⟨[], .rest s⟩

theorem throw (e : ε) : Walks allowed (throw e : Action ε σ History α) := fun s => ⟨[], .rest s⟩

theorem state : Walks allowed (Action.state : Action ε σ History History) := fun s => ⟨[], .rest s⟩

theorem notify (n : Notification) : Walks allowed (Action.notify n : Action ε σ History Unit) :=
  fun s => ⟨_, .of_stride (.tell s n)⟩

theorem ask {r : Request} (may : allowed r) :
    Walks allowed (Action.ask r : Action ε σ History r.Reply) :=
  fun _ => ⟨_, .of_stride (.exchange may rfl)⟩

/-- Changing the open record or the languages. -/
theorem update {f : History → History} (aside : ∀ h, ∃ selected languages,
    f h = { h with selected, languages }) :
    Walks allowed (Action.update f : Action ε σ History Unit) := fun s => by
  obtain ⟨selected, languages, hf⟩ := aside s.state
  rw [Action.update_apply, hf]
  exact ⟨_, .of_stride (.aside s selected languages)⟩

theorem attempt {act : Action ε σ History α} (hact : Walks allowed act) :
    Walks allowed (Action.attempt act : Action β σ History (Except ε α)) := hact

theorem load : Walks allowed (load : Act σ Unit) := fun s => by
  have walk : ∃ events, Walk allowed s events (History.load (s.after s.service s.state [])).2 :=
    Walk.load_after (.stay s.state)
  rwa [Session.after_self] at walk

theorem learnLanguages (may : allowed .languages) :
    Walks allowed (learnLanguages : Act σ Unit) := by
  refine bind (ask may) fun reply => ?_
  cases reply with
  | ok options => exact update fun h => ⟨h.selected, options, rfl⟩
  | error e => exact pure ()

theorem openUp (may : allowed .languages) : Walks allowed (openUp : Act σ Unit) := by
  refine bind (attempt load) fun loaded => bind (learnLanguages may) fun _ => ?_
  cases loaded with
  | ok _ => exact pure ()
  | error e => exact throw e

theorem filterBy (filters : Filters) : Walks allowed (filterBy filters : Act σ Unit) := fun s => by
  rw [filterBy_apply]
  exact Walk.load_after (.refilter s.state filters)

theorem turnTo {s : Session σ History} {page : Nat} (move : Move s.state (s.state.atPage page)) :
    ∃ events, Walk allowed s events (turnTo page s).2 := by
  rw [turnTo_apply]
  exact Walk.load_after move

theorem turnBy (delta : Int) : Walks allowed (turnBy delta : Act σ Bool) := fun s => by
  rcases h : s.state.paging.target delta with _ | page
  · rw [turnBy_of_none h]
    exact ⟨[], .rest s⟩
  · rw [turnBy_of_some h]
    exact turnTo (.of_target h)

theorem jumpTo (page : Nat) : Walks allowed (jumpTo page : Act σ Bool) := fun s => by
  by_cases h : page = 0 ∨ s.state.paging.totalPages < page
  · rw [jumpTo_of_missing h]
    exact ⟨[], .rest s⟩
  · rw [jumpTo_of_page h]
    exact turnTo (.turn s.state (by omega) (by omega))

theorem markFavorite {id : Int} {isFavorite : Bool} (may : allowed (.mark id isFavorite)) :
    Walks allowed (markFavorite id isFavorite : Act σ Unit) := by
  refine bind (ask may) fun reply => ?_
  cases reply with
  | ok message =>
    exact bind (notify _) fun _ => bind (update fun h => ⟨_, h.languages, rfl⟩) fun _ => load
  | error e => exact bind (notify _) fun _ => throw e

theorem leaveVanishedPage : Walks allowed (leaveVanishedPage : Act σ Unit) := fun s => by
  rcases h : s.state.fallbackPage with _ | page
  · rw [leaveVanishedPage_of_none h]
    exact ⟨[], .rest s⟩
  · rw [leaveVanishedPage_of_some h]
    exact turnTo (.of_fallback h)

theorem forget (id : Int) : Walks allowed (Action.update (·.forget id) : Act σ Unit) :=
  update fun h => ⟨_, h.languages, h.forget_eq id⟩

theorem discard {id : Int} (may : allowed (.delete id)) (confirmed : Bool) :
    Walks allowed (discard id confirmed : Act σ Bool) := by
  cases confirmed with
  | false => exact pure false
  | true =>
    refine bind (ask may) fun reply => ?_
    cases reply with
    | ok _ =>
      exact bind (notify _) fun _ => bind (forget id) fun _ => bind load fun _ =>
        bind leaveVanishedPage fun _ => pure true
    | error e => exact bind (notify _) fun _ => throw e

theorem toggleOpen (may : ∀ id isFavorite, allowed (.mark id isFavorite)) :
    Walks allowed (toggleOpen : Act σ Bool) := by
  refine bind state fun h => ?_
  cases h.selected with
  | none => exact pure false
  | some r => exact bind (markFavorite (may _ _)) fun _ => pure true

theorem discardOpen (may : ∀ id, allowed (.delete id)) (confirmed : Bool) :
    Walks allowed (discardOpen confirmed : Act σ Bool) := by
  refine bind state fun h => ?_
  cases h.selectedId with
  | none => exact pure false
  | some id =>
    refine bind (discard (may id) confirmed) fun deleted => ?_
    cases deleted with
    | false => exact pure false
    | true => exact bind (update fun h => ⟨none, h.languages, rfl⟩) fun _ => pure true

end Walks

end Exposition.History
