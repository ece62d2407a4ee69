import Exposition.Proofs.History.Course
import Exposition.Proofs.History.Tracks
import Mathlib.Data.List.Induction

/-!
# Proofs/History/Footing — when the user stands on a page that exists

Where no request fails, a history at an archive keeps its **footing**: its page exists, and it shows
nothing only if no record matches.  There is one exception.  Deleting a record leaves a page that
has vanished; setting a favorite flag, which under a filter for favorites takes a record away just
the same, does not.  So the footing is lost exactly when a flag is set that **strands** the history
behind the last page (`Desk.keeps_footing_iff`).

A reply that is carried by hand tells what the archive had at some moment since its ticket was
issued.  If the ticket is still the newest, nothing has changed in the meantime, since every change
is followed by a load (`Course.steady`, `Desk.steady_run`).
-/

namespace Exposition.History

variable {σ : Type} [Archive σ]

/-! ## Footing -/

/-- **A history keeps its footing.**  It may know of no records yet, and is on page 1 then. -/
structure Footing (service : σ) (h : History) : Prop where
  known : h.paging.totalCount = (Archive.matching service h.filters).length
    ∨ h.paging.page = 1 ∧ h.paging.totalCount = 0
  there : h.paging.page ≤ max 1 h.paging.totalPages
  empty : h.view = .empty → Archive.matching service h.filters = []

namespace Footing

variable {service service' : σ} {h h' : History}

theorem start (service : σ) (perPage : Nat) : Footing service (.start perPage) where
  known := .inr ⟨rfl, rfl⟩
  there := Nat.le_max_left ..
  empty := fun empty => absurd empty (by simp [History.start])

theorem of_shows (shown : Shows service h) (there : h.paging.page ≤ max 1 h.paging.totalPages) :
    Footing service h where
  known := .inl shown.totalCount
  there := there
  empty := shown.matching_eq_nil there

/-- The footing is a matter of the records, the filters, the paging and the list area. -/
theorem congr (footing : Footing service h)
    (records : Archive.records service' = Archive.records service)
    (filters : h'.filters = h.filters) (paging : h'.paging = h.paging)
    (empty : h'.view = .empty → h.view = .empty) : Footing service' h' where
  known := by
    rw [filters, paging, Archive.matching_congr records]
    exact footing.known
  there := by
    rw [paging]
    exact footing.there
  empty := fun hempty => by
    rw [filters, Archive.matching_congr records]
    exact footing.empty (empty hempty)

/-- A history knows of no page behind the last one. -/
theorem totalPages_le (footing : Footing service h) :
    max 1 h.paging.totalPages ≤ lastPage σ (Archive.records service) h := by
  rcases footing.known with known | ⟨-, none⟩
  · rw [Paging.totalPages, known]
    exact Nat.le_refl _
  · rw [Paging.totalPages, none, pagesFor_zero]
    exact Nat.le_max_left ..

/-- **A move stays among the pages that exist.** -/
theorem le_lastPage_of_move (footing : Footing service h) (move : Move h h') :
    h'.paging.page ≤ lastPage σ (Archive.records service) h' := by
  cases move with
  | stay => exact Nat.le_trans footing.there footing.totalPages_le
  | refilter filters =>
    have hpage : (h.withFilters filters).paging.page = 1 :=
      Paging.atPage_page (Nat.le_refl 1) (by decide)
    rw [hpage]
    exact Nat.le_max_left ..
  | @turn page first last =>
    have hpage : (h.atPage page).paging.page ≤ page := by
      change min (max page 1) Text.maxWord ≤ page
      omega
    exact Nat.le_trans hpage (Nat.le_trans last footing.totalPages_le)

/-- Loading a page that exists. -/
theorem of_loaded (loaded : Loaded service h service' h')
    (there : h.paging.page ≤ lastPage σ (Archive.records service) h) : Footing service' h' := by
  refine .of_shows loaded.shown ?_
  rw [loaded.last, loaded.page]
  exact there

end Footing

/-! ## What keeps it -/

theorem Stride.footing {s s' : Session σ History} {events : List Event}
    (stride : Stride (·.changes = false) s events s') (smooth : Smooth events)
    (footing : Footing s.service s.state) : Footing s'.service s'.state := by
  have records := stride.unchanged
  cases stride with
  | @fetch h reply service move answered =>
    cases reply with
    | error e => exact absurd smooth (Smooth.not_error (List.mem_cons_self ..))
    | ok slice => exact .of_loaded (.of_listed answered) (footing.le_lastPage_of_move move)
  | exchange reads answered => exact footing.congr records rfl rfl id
  | tell => exact footing
  | aside selected languages => exact footing.congr rfl rfl rfl id

theorem Walk.footing {s s' : Session σ History} {events : List Event}
    (walk : Walk (·.changes = false) s events s') (smooth : Smooth events)
    (footing : Footing s.service s.state) : Footing s'.service s'.state := by
  induction walk with
  | rest => exact footing
  | on _ stride ih => exact stride.footing smooth.right (ih smooth.left)

/-- **An operation strands the history**: it sets a favorite flag, and the records that then match
end before the current page. -/
def Operation.Strands (s : Session σ History) (o : Operation) : Prop :=
  ∃ id isFavorite, o.mark? s.state = some (id, isFavorite)
    ∧ lastPage σ (Store.updateFirst id (fun r => { r with isFavorite }) (Archive.records s.service))
        s.state < s.state.paging.page

namespace Course

variable {o : Operation} {s s' : Session σ History}

/-- **Where a mark leads**: to the page where the history was, among those that are left. -/
theorem of_mark {id : Int} {isFavorite : Bool} (marks : o.mark? s.state = some (id, isFavorite))
    (course : Course o s s') : Shows s'.service s'.state
      ∧ s'.state.paging.page = s.state.paging.page
      ∧ max 1 s'.state.paging.totalPages = lastPage σ
          (Store.updateFirst id (fun r => { r with isFavorite }) (Archive.records s.service))
          s.state := by
  cases course with
  | read plain walk => exact absurd (marks.symm.trans plain) (by simp)
  | landed plain landed selected => exact absurd (marks.symm.trans plain) (by simp)
  | marked marks' answered loaded =>
    obtain ⟨rfl, rfl⟩ := Prod.mk.inj (Option.some.inj (marks.symm.trans marks'))
    refine ⟨loaded.shown, loaded.page, ?_⟩
    rw [Session.after_state, loaded.last, Archive.mark_ok answered]
    rfl

theorem footing (course : Course o s s') (smooth : Smooth (s.since s')) (firm : ¬ o.Strands s)
    (footing : Footing s.service s.state) : Footing s'.service s'.state := by
  rcases marks : o.mark? s.state with _ | ⟨id, isFavorite⟩
  · cases course with
    | read plain walk => exact walk.footing (walk.since_eq ▸ smooth) footing
    | marked marks' => exact absurd (marks.symm.trans marks') (by simp)
    | landed plain landed selected =>
      exact (Footing.of_shows landed.shown landed.there).congr rfl rfl rfl id
  · obtain ⟨shown, page, last⟩ := course.of_mark marks
    refine .of_shows shown ?_
    rw [page, last]
    exact Nat.le_of_not_lt fun behind => firm ⟨id, isFavorite, marks, behind⟩

end Course

/-! ## Runs -/

namespace Desk

variable {d : Desk σ}

theorem Step.steady {d' : Desk σ} {o : Operation} (step : Step d o d')
    (smooth : Smooth (d.session.since d'.session)) : Steady d.session d'.session := by
  cases step with
  | whole whole => exact (o.course whole smooth).steady
  | issue => exact .of_later (Nat.lt_succ_self _)
  | late => exact .refl _
  | timely _ timely reply =>
    cases reply with
    | ok slice => rw [settle_ok timely]; exact ⟨Nat.le_refl _, fun _ => rfl⟩
    | error e => rw [settle_error timely]; exact ⟨Nat.le_refl _, fun _ => rfl⟩
  | pass => exact .refl _

/-- **Records change only before a load**, also where tickets are carried by hand. -/
theorem steady_run {ops : List Operation} (smooth : Smooth (d.run ops).session.transcript) :
    Steady d.session (d.run ops).session := by
  induction ops generalizing d with
  | nil => exact .refl _
  | cons o ops ih => exact ((d.steps o).steady (smooth_step smooth)).trans (ih smooth)

/-- **Replies that are carried by hand are fair**: each is the page that the archive had for the
ticket at some moment since the ticket was issued. -/
def Fair (d : Desk σ) (ops : List Operation) : Prop :=
  ∀ before t reply after, ops = before ++ .settle t reply :: after →
    t ∈ (d.run before).log.tickets →
    ∃ early late, before = early ++ late ∧ t ∈ (d.run early).log.tickets
      ∧ reply = .ok (Archive.page (d.run early).session.service t.query)

/-- **A fair reply to the newest ticket** is the page that the archive has now. -/
theorem Fair.now {ops before after : List Operation} {t : Ticket}
    {reply : Except ServiceError Slice} (fair : d.Fair ops)
    (tracks : Tracks d.log d.session.state)
    (smooth : Smooth (d.run before).session.transcript)
    (split : ops = before ++ .settle t reply :: after)
    (newest : (d.run before).log.newest? = some t) :
    reply = .ok (Archive.page (d.run before).session.service
      (d.run before).session.state.query) := by
  have known : t ∈ (d.run before).log.tickets := List.mem_of_head? newest
  obtain ⟨early, late, rfl, known', rfl⟩ := fair before t reply after split known
  have hnumber := (tracks_run tracks early).number_le known'
  obtain ⟨number, query⟩ := (tracks_run tracks (early ++ late)).newest t newest
  rw [run_append] at smooth number query ⊢
  -- The ticket was there early on and is still the newest, so no load has come in between.
  have steady := steady_run smooth
  have hissued := steady.issued
  rw [query, Archive.page_congr (steady.records (by omega))]

theorem Step.footing {d' : Desk σ} {o : Operation} (step : Step d o d')
    (tracks : Tracks d.log d.session.state) (smooth : Smooth (d.session.since d'.session))
    (firm : ¬ o.Strands d.session)
    (now : ∀ t reply, o = .settle t reply → d.log.newest? = some t →
      reply = .ok (Archive.page d.session.service d.session.state.query))
    (footing : Footing d.session.service d.session.state) :
    Footing d'.session.service d'.session.state := by
  cases step with
  | whole whole => exact (o.course whole smooth).footing smooth firm footing
  | issue => exact footing.congr rfl rfl rfl fun loading => absurd loading (by simp [History.issue])
  | late => exact footing
  | @timely t known timely reply =>
    have newest : d.log.newest? = some t :=
      Decidable.not_not.1 fun older => timely ((tracks.late_iff known).2 older)
    rw [now t reply rfl newest, settle_ok timely]
    have shown : Shows d.session.service
        (d.session.state.apply (Archive.page d.session.service d.session.state.query)) := .of_page _
    refine .of_shows shown ?_
    rw [Session.after_state, ← shown.lastPage_eq]
    exact Nat.le_trans footing.there footing.totalPages_le
  | pass => exact footing

/-- **An operation that strands the history** leaves it on a page that does not exist. -/
theorem Step.stranded {d' : Desk σ} {o : Operation} (step : Step d o d')
    (smooth : Smooth (d.session.since d'.session)) (stranded : o.Strands d.session) :
    max 1 d'.session.state.paging.totalPages < d'.session.state.paging.page := by
  obtain ⟨id, isFavorite, marks, behind⟩ := stranded
  cases step with
  | whole whole =>
    obtain ⟨-, page, last⟩ := (o.course whole smooth).of_mark marks
    rw [page, last]
    exact behind
  | issue => exact absurd marks (by simp [Operation.mark?])
  | late => exact absurd marks (by simp [Operation.mark?])
  | timely => exact absurd marks (by simp [Operation.mark?])
  | pass => exact absurd marks (by simp [Operation.mark?])

/-- **When a history keeps its footing.**  Where no request fails and replies carried by hand are
fair, the page exists after every operation of a run, and nothing is shown only where nothing
matches, exactly when no operation of the run strands the history. -/
theorem keeps_footing_iff (service : σ) (perPage : Nat) (ops : List Operation)
    (smooth : Smooth ((start service perPage).run ops).session.transcript)
    (fair : (start service perPage).Fair ops) :
    (∀ before after, ops = before ++ after →
      let s := ((start service perPage).run before).session
      s.state.paging.page ≤ max 1 s.state.paging.totalPages
        ∧ (s.state.view = .empty → Archive.matching s.service s.state.filters = []))
    ↔ ∀ before o after, ops = before ++ o :: after →
      ¬ o.Strands ((start service perPage).run before).session := by
  have smooth_step {before : List Operation} {o : Operation} {after : List Operation}
      (split : ops = before ++ o :: after) : Smooth
        (((start service perPage).run before).session.since
          (((start service perPage).run before).step o).session) := by
    rw [split, run_append, run_cons] at smooth
    exact Desk.smooth_step smooth
  constructor
  · intro kept before o after split stranded
    have behind := (steps _ o).stranded (smooth_step split) stranded
    have there := (kept (before ++ [o]) after (by rw [split, List.append_assoc]; rfl)).1
    rw [run_append, run_cons, run_nil] at there
    exact Nat.not_lt_of_le there behind
  · intro firm before after split
    suffices footing : Footing ((start service perPage).run before).session.service
        ((start service perPage).run before).session.state from ⟨footing.there, footing.empty⟩
    -- By induction from the end, since a reply may be as old as its ticket: what it tells is read
    -- off the whole run so far.
    induction before using List.reverseRecOn generalizing after with
    | nil => exact .start service perPage
    | append_singleton before o ih =>
      have split' : ops = before ++ o :: after := by rw [split, List.append_assoc]; rfl
      have step := ((start service perPage).run before).steps o
      have tracks : Tracks [] (History.start perPage) := .start perPage
      rw [run_append, run_cons, run_nil]
      refine step.footing (tracks_run tracks before) (smooth_step split') (firm _ _ _ split') ?_
        (ih _ split')
      rintro t reply rfl newest
      refine fair.now tracks ?_ split' newest
      rw [split', run_append] at smooth
      exact fun e mem => smooth e ((transcript_run _ _).subset mem)

/-! A run that loses the footing: of two favorites, each on a page of its own, the second is marked
as no longer one. -/

/-- A store of two favorites. -/
def twoFavorites : Store where
  records := [⟨2, "", "", .beginner, "", true, ⟨0, 0⟩, none⟩,
    ⟨1, "", "", .beginner, "", true, ⟨0, 0⟩, none⟩]

/-- Going to the second favorite, which then is no longer one. -/
def unmarking : List Operation :=
  [.load, .filterBy { isFavorite := some true }, .turnForward, .markFavorite 1 false]

theorem keeps_footing_iff_of_unmarking :
    Smooth ((start twoFavorites 1).run unmarking).session.transcript
    ∧ (start twoFavorites 1).Fair unmarking
    ∧ ¬ ∀ before o after, unmarking = before ++ o :: after →
        ¬ o.Strands ((start twoFavorites 1).run before).session := by
  have smooth : Smooth ((start twoFavorites 1).run unmarking).session.transcript := by decide
  have fair : (start twoFavorites 1).Fair unmarking := fun before t reply after split => by
    have mem : Operation.settle t reply ∈ unmarking := by
      rw [split]
      exact List.mem_append_right _ (List.mem_cons_self ..)
    simp [unmarking] at mem
  refine ⟨smooth, fair, fun firm => ?_⟩
  have kept := (keeps_footing_iff twoFavorites 1 unmarking smooth fair).2 firm
  exact absurd (kept unmarking [] (List.append_nil _).symm).1 (by decide)

/-- **The footing can be lost**: the history stays on page 2 of 1 and shows nothing, although a
favorite is left. -/
theorem footing_lost :
    let s := ((start twoFavorites 1).run unmarking).session
    Smooth s.transcript
    ∧ s.state.paging.page = 2 ∧ s.state.paging.totalPages = 1
    ∧ s.state.view = .empty ∧ Archive.matching s.service s.state.filters ≠ [] := by
  intro s
  exact ⟨by decide, by decide, by decide, by decide, by decide⟩

end Desk

end Exposition.History
