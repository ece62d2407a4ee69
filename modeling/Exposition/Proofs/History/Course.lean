import Exposition.Proofs.History.Landing
import Exposition.Proofs.History.Run

/-!
# Proofs/History/Course — the three courses of a smooth operation

Where no request fails, an operation that carries no ticket can take one of three courses: it walks
and only reads, it sets a favorite flag and loads the page again, or it deletes a record and lands
(`Operation.course`).  Whatever a smooth operation keeps is shown for these three.
-/

namespace Exposition.History

variable {σ : Type}

/-- **A favorite flag is set and the page is loaded again**, if no request fails. -/
theorem markFavorite_smooth [Service σ] {s : Session σ History} {id : Int} {isFavorite : Bool}
    (smooth : Smooth (s.since (markFavorite id isFavorite s).2)) :
    ∃ message service slice service',
      Service.answer (.mark id isFavorite) s.service = (.ok message, service)
        ∧ Service.answer (.list s.state.query) service = (.ok slice, service')
        ∧ ∃ events, (markFavorite id isFavorite s).2
          = s.after service' ((s.state.mark id isFavorite).received (.ok slice)) events := by
  rcases answered : Service.answer (.mark id isFavorite) s.service with ⟨e | message, service⟩
  · rw [markFavorite_error answered, Session.since_after] at smooth
    exact absurd smooth (Smooth.not_error (List.mem_cons_self ..))
  · rcases listed : Service.answer (.list s.state.query) service with ⟨e | slice, service'⟩
    · rw [markFavorite_apply answered listed, Session.since_after] at smooth
      exact absurd smooth.right (Smooth.not_error (List.mem_cons_self ..))
    · exact ⟨message, service, slice, service', rfl, listed, _,
        congrArg Prod.snd (markFavorite_apply answered listed)⟩

/-! ## Steady sessions -/

variable [Archive σ]

/-- **Records change only before a load**: as long as no ticket is issued, they are the same. -/
structure Steady (s s' : Session σ History) : Prop where
  issued : s.state.issued ≤ s'.state.issued
  records : s'.state.issued = s.state.issued →
    Archive.records s'.service = Archive.records s.service

namespace Steady

variable {s s' s'' : Session σ History}

theorem refl (s : Session σ History) : Steady s s := ⟨Nat.le_refl _, fun _ => rfl⟩

theorem of_later (later : s.state.issued < s'.state.issued) : Steady s s' :=
  ⟨Nat.le_of_lt later, fun same => absurd same (Nat.ne_of_gt later)⟩

theorem trans (steady : Steady s s') (steady' : Steady s' s'') : Steady s s'' := by
  have issued := steady.issued
  have issued' := steady'.issued
  refine ⟨Nat.le_trans issued issued', fun same => ?_⟩
  have first : s'.state.issued = s.state.issued := by omega
  have second : s''.state.issued = s'.state.issued := by omega
  exact (steady'.records second).trans (steady.records first)

end Steady

/-- **A stride that only reads** leaves the records alone. -/
theorem Stride.unchanged {s s' : Session σ History} {events : List Event}
    (stride : Stride (·.changes = false) s events s') :
    Archive.records s'.service = Archive.records s.service := by
  cases stride with
  | @fetch h reply service move answered =>
    have hrecords := Archive.unchanged (r := .list h.query) rfl s.service
    rwa [answered] at hrecords
  | @exchange r reply service reads answered =>
    have hrecords := Archive.unchanged reads s.service
    rwa [answered] at hrecords
  | tell => rfl
  | aside => rfl

theorem Stride.steady {s s' : Session σ History} {events : List Event}
    (stride : Stride (·.changes = false) s events s') : Steady s s' := by
  refine ⟨?_, fun _ => stride.unchanged⟩
  cases stride with
  | fetch move answered =>
    obtain ⟨-, -, -, -, issued⟩ := move.kept
    rw [Session.after_state, received_issued, issued]
    exact Nat.le_succ _
  | exchange => exact Nat.le_refl _
  | tell => exact Nat.le_refl _
  | aside => exact Nat.le_refl _

theorem Walk.steady {s s' : Session σ History} {events : List Event}
    (walk : Walk (·.changes = false) s events s') : Steady s s' := by
  induction walk with
  | rest => exact .refl _
  | on _ stride ih => exact ih.trans stride.steady

/-! ## Courses -/

/-- The favorite flag that an operation sets, and of which record. -/
def Operation.mark? (h : History) : Operation → Option (Int × Bool)
  | .markFavorite id isFavorite => some (id, isFavorite)
  | .toggleOpen => h.selected.map fun r => (r.id, !r.isFavorite)
  | _ => none

/-- **What a smooth operation comes to.** -/
inductive Course (o : Operation) (s : Session σ History) : Session σ History → Prop
  /-- It only reads. -/
  | read {events : List Event} {s' : Session σ History} (plain : o.mark? s.state = none)
    (walk : Walk (·.changes = false) s events s') : Course o s s'
  /-- It sets a favorite flag and loads the page again. -/
  | marked {id : Int} {isFavorite : Bool} {message : String} {service service' : σ} {h : History}
    {events : List Event} (marks : o.mark? s.state = some (id, isFavorite))
    (answered : Service.answer (.mark id isFavorite) s.service = (.ok message, service))
    (loaded : Loaded service (s.state.mark id isFavorite) service' h) :
    Course o s (s.after service' h events)
  /-- It deletes a record, lands, and perhaps closes the open record. -/
  | landed {id : Int} {service : σ} {events : List Event} {s' : Session σ History}
    (plain : o.mark? s.state = none)
    (landed : Landed (s.after service (s.state.forget id) (deleteEvents id)) events s')
    (selected : Option Record) :
    Course o s (s'.after s'.service { s'.state with selected } [])

namespace Course

variable {s s' : Session σ History}

theorem steady {o : Operation} (course : Course o s s') : Steady s s' := by
  cases course with
  | read plain walk => exact walk.steady
  | marked marks answered loaded =>
    refine .of_later ?_
    rw [Session.after_state, loaded.issued]
    exact Nat.lt_succ_self _
  | landed plain landed selected =>
    have later := landed.issued
    rw [Session.after_state, issued_forget] at later
    exact .of_later later

theorem of_markFavorite {o : Operation} {id : Int} {isFavorite : Bool}
    (marks : o.mark? s.state = some (id, isFavorite))
    (smooth : Smooth (s.since (markFavorite id isFavorite s).2)) :
    Course o s (markFavorite id isFavorite s).2 := by
  obtain ⟨message, service, slice, service', answered, listed, events, hmark⟩ :=
    markFavorite_smooth smooth
  rw [hmark]
  exact .marked marks answered (.of_listed listed)

theorem of_toggleOpen (smooth : Smooth (s.since (toggleOpen s).2)) :
    Course .toggleOpen s (toggleOpen s).2 := by
  rcases opened : s.state.selected with _ | r
  · rw [toggleOpen_of_none opened]
    exact .read (by rw [Operation.mark?, opened]; rfl) (.rest s)
  · rw [toggleOpen_of_some opened] at smooth ⊢
    exact of_markFavorite (by rw [Operation.mark?, opened]; rfl) smooth

/-- A deletion that was declined comes to nothing. -/
theorem of_discard {o : Operation} (plain : o.mark? s.state = none) {id : Int} {confirmed : Bool}
    (smooth : Smooth (s.since (discard id confirmed s).2)) :
    Course o s (discard id confirmed s).2 := by
  cases confirmed with
  | false => exact .read plain (.rest s)
  | true =>
    obtain ⟨-, service, events, -, landed⟩ := discard_lands smooth
    rw [← Session.after_self (discard id true s).2]
    exact .landed plain landed (discard id true s).2.state.selected

theorem of_discardOpen {confirmed : Bool} (smooth : Smooth (s.since (discardOpen confirmed s).2)) :
    Course (.discardOpen confirmed) s (discardOpen confirmed s).2 := by
  rcases opened : s.state.selectedId with _ | id
  · rw [discardOpen_of_none opened]
    exact .read rfl (.rest s)
  · cases confirmed with
    | false =>
      rw [discardOpen_of_some opened]
      exact .read rfl (.rest s)
    | true =>
      rw [Session.since, discardOpen_transcript opened, ← Session.since] at smooth
      obtain ⟨result, service, events, -, landed⟩ := discard_lands smooth
      have hdiscard : discard id true s = (.ok true, (discard id true s).2) := Prod.ext result rfl
      rw [discardOpen_of_some opened, hdiscard]
      exact .landed rfl landed none

end Course

/-- **What an operation that carries no ticket comes to**, if no request fails. -/
theorem Operation.course {o : Operation} (whole : o.IsWhole) {s : Session σ History}
    (smooth : Smooth (s.since (o.act s).2)) : Course o s (o.act s).2 := by
  have reads (may : ∀ r, o.MayAsk r → r.changes = false) (plain : o.mark? s.state = none) :
      Course o s (o.act s).2 := by
    obtain ⟨events, walk⟩ := o.walks whole may s
    exact .read plain walk
  cases o with
  | openUp => exact reads (by rintro r rfl; rfl) rfl
  | learnLanguages => exact reads (by rintro r rfl; rfl) rfl
  | markFavorite id isFavorite => exact .of_markFavorite rfl smooth
  | toggleOpen => exact .of_toggleOpen smooth
  | discard id confirmed => exact .of_discard rfl smooth
  | discardOpen confirmed => exact .of_discardOpen smooth
  | issue => exact whole.elim
  | settle t reply => exact whole.elim
  | _ => exact reads (fun r may => may.elim) rfl

end Exposition.History
