import Exposition.Proofs.History.Account

/-!
# Proofs/History/Selection — which record is open, and as what

The open record is touched by favorite flags, by deletions and by every page that comes; their order
and the failures between them decide what the next command acts on.  The law (`Selected`) has one
case each: a record whose deletion the service has acknowledged is closed; otherwise the record with
the same number is open, as the last page that counted has it, or else with the favorite flag that
the service has acknowledged, or else unchanged.  Every operation follows it, whatever the service
replies (`Operation.selection_law`), but for the two that open and close a record by themselves.

A change comes before the page that may refresh the record, so the law is shown for the lead of an
operation first (`Lead.selected`), and a page is put on top of it (`Selected.answered`).
-/

namespace Exposition

/-- The reply to a request for a page. -/
def Event.page? : Event → Option (Except ServiceError Slice)
  | .asked (.list _) reply => some reply
  | _ => none

namespace History

/-! ## What the service has said -/

/-- **The service has acknowledged the deletion** of a record. -/
def Deletes (events : List Event) (id : Int) : Prop := .asked (.delete id) (.ok ()) ∈ events

/-- **The service has acknowledged a favorite flag** of a record. -/
def Marks (events : List Event) (id : Int) (isFavorite : Bool) : Prop :=
  ∃ message, .asked (.mark id isFavorite) (.ok message) ∈ events

/-- The page that the last reply to a request for one has brought, if it was not a failure. -/
def lastPage? (events : List Event) : Option Slice :=
  (events.filterMap Event.page?).getLast?.bind Except.toOption

/-- **The last answer of an operation that counted**: the last page that has come, or the page that
was carried by hand, if its ticket was still the newest. -/
def Operation.answer? : (o : Operation) → Except ServiceError o.Result → List Event → Option Slice
  | .settle _ (.ok slice), .ok .applied, _ => some slice
  | .settle _ _, _, _ => none
  | _, _, events => lastPage? events

/-- **What becomes of the open record** while some events pass, the last page being `answer`. -/
structure Selected (events : List Event) (answer : Option Slice) (before after : Option Record) :
    Prop where
  /-- Nothing opens a record. -/
  closed : before = none → after = none
  /-- A record that was deleted is closed, whatever comes afterwards. -/
  deleted : ∀ r, before = some r → Deletes events r.id → after = none
  /-- A record on the last page is open as it stands there first. -/
  listed : ∀ r, before = some r → ¬ Deletes events r.id → ∀ slice fresh, answer = some slice →
    slice.records.find? (·.id == r.id) = some fresh → after = some fresh
  /-- A record that is not on it has the favorite flag that was acknowledged. -/
  marked : ∀ r, before = some r → ¬ Deletes events r.id →
    (∀ slice, answer = some slice → ∀ r' ∈ slice.records, r'.id ≠ r.id) →
    ∀ isFavorite, Marks events r.id isFavorite → after = some { r with isFavorite }
  /-- Otherwise it is unchanged. -/
  kept : ∀ r, before = some r → ¬ Deletes events r.id →
    (∀ slice, answer = some slice → ∀ r' ∈ slice.records, r'.id ≠ r.id) →
    (∀ isFavorite, ¬ Marks events r.id isFavorite) → after = some r

/-- The open record as a reply leaves it. -/
def afterReply (reply : Except ServiceError Slice) (selected : Option Record) : Option Record :=
  match reply with
  | .ok slice => refreshed slice.records selected
  | .error _ => selected

theorem selected_received (h : History) (reply : Except ServiceError Slice) :
    (h.received reply).selected = afterReply reply h.selected := by
  cases reply with
  | ok slice => rw [received_ok]; rfl
  | error e => rw [received_error]; rfl

namespace Selected

variable {events events' : List Event} {answer : Option Slice} {before after : Option Record}

/-- **A record that is not deleted stays the one that is open.** -/
theorem number (law : Selected events answer before after) {r : Record} (opened : before = some r)
    (stays : ¬ Deletes events r.id) : ∃ r', after = some r' ∧ r'.id = r.id := by
  by_cases listed : ∃ slice fresh, answer = some slice
      ∧ slice.records.find? (·.id == r.id) = some fresh
  · obtain ⟨slice, fresh, answered, found⟩ := listed
    exact ⟨fresh, law.listed r opened stays slice fresh answered found,
      by simpa using List.find?_some found⟩
  · have missing : ∀ slice, answer = some slice → ∀ r' ∈ slice.records, r'.id ≠ r.id := by
      intro slice answered r' mem same
      rcases found : slice.records.find? (·.id == r.id) with _ | fresh
      · exact List.find?_eq_none.1 found r' mem (by simp [same])
      · exact listed ⟨slice, fresh, answered, found⟩
    by_cases marks : ∃ isFavorite, Marks events r.id isFavorite
    · obtain ⟨isFavorite, marks⟩ := marks
      exact ⟨_, law.marked r opened stays missing isFavorite marks, rfl⟩
    · exact ⟨r, law.kept r opened stays missing fun b h => marks ⟨b, h⟩, rfl⟩

/-- Nothing has passed that bears on the open record. -/
theorem refl (quiet : ∀ id b, ¬ Deletes events id ∧ ¬ Marks events id b) (before : Option Record) :
    Selected events none before before where
  closed := id
  deleted _ _ deletes := absurd deletes (quiet _ true).1
  listed _ _ _ _ _ answered := absurd answered (by simp)
  marked _ _ _ _ isFavorite marks := absurd marks (quiet _ isFavorite).2
  kept _ opened _ _ _ := opened

/-- The law is a matter of the changes that were acknowledged, whatever else has passed. -/
theorem congr (law : Selected events answer before after)
    (deletes : ∀ id, Deletes events' id ↔ Deletes events id)
    (marks : ∀ id b, Marks events' id b ↔ Marks events id b) :
    Selected events' answer before after where
  closed := law.closed
  deleted r opened h := law.deleted r opened ((deletes _).1 h)
  listed r opened stays := law.listed r opened fun h => stays ((deletes _).2 h)
  marked r opened stays missing b h :=
    law.marked r opened (fun h => stays ((deletes _).2 h)) missing b ((marks _ b).1 h)
  kept r opened stays missing h :=
    law.kept r opened (fun h => stays ((deletes _).2 h)) missing fun b hb => h b ((marks _ b).2 hb)

/-- **A reply on top of a change**: a page that has the record refreshes it. -/
theorem answered (law : Selected events none before after) (reply : Except ServiceError Slice) :
    Selected events reply.toOption before (afterReply reply after) := by
  cases reply with
  | error e => exact law
  | ok slice =>
    have hrefreshed {r r' : Record} (hafter : after = some r') (same : r'.id = r.id) :
        afterReply (.ok slice) after
          = some ((slice.records.find? (·.id == r.id)).getD r') := by
      rw [hafter, ← same]
      rfl
    have hmissing {r : Record} (missing : ∀ slice', some slice = some slice' →
        ∀ r' ∈ slice'.records, r'.id ≠ r.id) : slice.records.find? (·.id == r.id) = none :=
      List.find?_eq_none.2 fun r' mem => by simpa using missing slice rfl r' mem
    refine ⟨fun nothing => ?_, fun r opened deletes => ?_, ?_, ?_, ?_⟩
    · rw [law.closed nothing]
      rfl
    · rw [law.deleted r opened deletes]
      rfl
    · intro r opened stays slice' fresh answered found
      obtain rfl : slice = slice' := Option.some.inj answered
      obtain ⟨r', hafter, same⟩ := law.number opened stays
      rw [hrefreshed hafter same, found]
      rfl
    · intro r opened stays missing isFavorite marks
      have hafter := law.marked r opened stays (fun _ h => absurd h (by simp)) isFavorite marks
      rw [hrefreshed hafter rfl, hmissing missing]
      rfl
    · intro r opened stays missing unmarked
      have hafter := law.kept r opened stays (fun _ h => absurd h (by simp)) unmarked
      rw [hrefreshed hafter rfl, hmissing missing]
      rfl

end Selected

/-! ## Operations that ask the service -/

section Acknowledged

variable {events events' : List Event} {id : Int} {isFavorite : Bool}

theorem deletes_append :
    Deletes (events ++ events') id ↔ Deletes events id ∨ Deletes events' id := List.mem_append

theorem marks_append :
    Marks (events ++ events') id isFavorite ↔ Marks events id isFavorite
      ∨ Marks events' id isFavorite := by
  simp only [Marks, List.mem_append, exists_or]

theorem not_deletes_pageEvents (q : Query) (reply : Except ServiceError Slice) :
    ¬ Deletes (pageEvents q reply) id := by
  cases reply with
  | ok slice => simp [Deletes, pageEvents, notices]
  | error e => simp [Deletes, pageEvents, notices]

theorem not_marks_pageEvents (q : Query) (reply : Except ServiceError Slice) :
    ¬ Marks (pageEvents q reply) id isFavorite := by
  cases reply with
  | ok slice => simp [Marks, pageEvents, notices]
  | error e => simp [Marks, pageEvents, notices]

theorem deletes_deleteEvents_iff {id' : Int} : Deletes (deleteEvents id') id ↔ id = id' := by
  simp [Deletes, deleteEvents]

theorem not_marks_deleteEvents {id' : Int} : ¬ Marks (deleteEvents id') id isFavorite := by
  simp [Marks, deleteEvents]

theorem not_deletes_markEvents {id' : Int} {isFavorite : Bool} {message : String} :
    ¬ Deletes (markEvents id' isFavorite message) id := by
  simp [Deletes, markEvents]

theorem marks_markEvents_iff {id' : Int} {isFavorite' : Bool} {message : String} :
    Marks (markEvents id' isFavorite' message) id isFavorite
      ↔ id = id' ∧ isFavorite = isFavorite' := by
  constructor
  · rintro ⟨message', mem⟩
    have fields : (id = id' ∧ isFavorite = isFavorite') ∧ message' = message := by
      simpa [markEvents] using mem
    exact fields.1
  · rintro ⟨rfl, rfl⟩
    exact ⟨message, List.mem_cons_self ..⟩

/-- A change that was refused is not acknowledged. -/
theorem refused_quiet (r : Request) (e : ServiceError) (message : String) (id : Int) (b : Bool) :
    ¬ Deletes [.asked r (.error e), .notified (.error message)] id
      ∧ ¬ Marks [.asked r (.error e), .notified (.error message)] id b := by
  constructor
  · intro deletes
    rcases List.mem_cons.1 deletes with same | mem
    · cases same
    · simp at mem
  · rintro ⟨message', marks⟩
    rcases List.mem_cons.1 marks with same | mem
    · cases same
    · simp at mem

end Acknowledged

/-- A favorite flag that was acknowledged is set, if its record is open. -/
theorem Selected.of_mark (h : History) (id : Int) (isFavorite : Bool) (message : String) :
    Selected (markEvents id isFavorite message) none h.selected
      (h.mark id isFavorite).selected := by
  have hmark {r : Record} (opened : h.selected = some r) : (h.mark id isFavorite).selected
      = some (if r.id = id then { r with isFavorite } else r) := by
    rw [mark, opened]
    rfl
  refine ⟨fun closed => ?_, fun r _ deletes => absurd deletes not_deletes_markEvents,
    fun r _ _ slice fresh answered => absurd answered (by simp), ?_, ?_⟩
  · rw [mark, closed]
    rfl
  · rintro r opened - - isFavorite' marks
    obtain ⟨same, rfl⟩ := marks_markEvents_iff.1 marks
    rw [hmark opened, if_pos same]
  · intro r opened _ _ unmarked
    have other : r.id ≠ id := fun same =>
      unmarked isFavorite (marks_markEvents_iff.2 ⟨same, rfl⟩)
    rw [hmark opened, if_neg other]

/-- A record whose deletion was acknowledged is closed, if it is open. -/
theorem Selected.of_delete (h : History) (id : Int) :
    Selected (deleteEvents id) none h.selected (h.forget id).selected := by
  have hforget {r : Record} (opened : h.selected = some r) :
      (h.forget id).selected = if r.id = id then none else some r := by
    rw [forget_eq, selectedId, opened]
    simp
  refine ⟨fun closed => ?_, fun r opened deletes => ?_,
    fun r _ _ slice fresh answered => absurd answered (by simp),
    fun r _ _ _ isFavorite marks => absurd marks not_marks_deleteEvents,
    fun r opened stays _ _ => ?_⟩
  · rw [forget_eq, selectedId, closed]
    rfl
  · rw [hforget opened, if_pos (deletes_deleteEvents_iff.1 deletes)]
  · rw [hforget opened, if_neg fun same => stays (deletes_deleteEvents_iff.2 same)]

/-- **What a lead does to the open record.**  A page that comes back empty does nothing. -/
theorem Lead.selected {before : List Event} (lead : Lead before) (h : History) :
    Selected before none h.selected (before.foldl hear h).selected := by
  cases lead with
  | nothing => exact .refl (fun id b => by simp [Deletes, Marks]) _
  | marked id isFavorite message => exact .of_mark h id isFavorite message
  | deleted id => exact .of_delete h id
  | @emptied id q slice empty =>
    have hselected : ((deleteEvents id ++ pageEvents q (.ok slice)).foldl hear h).selected
        = (h.forget id).selected := by
      rw [List.foldl_append, hear_deleteEvents, hear_pageEvents, selected_received, afterReply,
        empty]
      exact congrFun Option.map_id _
    rw [hselected]
    refine (Selected.of_delete h id).congr (fun id' => ?_) fun id' b => ?_
    · rw [deletes_append, or_iff_left (not_deletes_pageEvents q _)]
    · rw [marks_append, or_iff_left (not_marks_pageEvents q _)]

theorem page?_pageEvents (q : Query) (reply : Except ServiceError Slice) :
    (pageEvents q reply).filterMap Event.page? = [reply] := by
  cases reply with
  | ok slice => rfl
  | error e => rfl

theorem lastPage?_loaded (before : List Event) (q : Query) (reply : Except ServiceError Slice) :
    lastPage? (before ++ pageEvents q reply) = reply.toOption := by
  rw [lastPage?, List.filterMap_append, page?_pageEvents, List.getLast?_concat]
  rfl

theorem selected_hear_languages (h : History) (reply : Except ServiceError (List OfferedLanguage)) :
    (h.hear (.asked .languages reply)).selected = h.selected := by
  cases reply with
  | ok options => rfl
  | error e => rfl

/-- A page that was loaded after a lead. -/
theorem Selected.of_loaded {before : List Event} (lead : Lead before) (q : Query)
    (reply : Except ServiceError Slice) (h : History) :
    Selected (before ++ pageEvents q reply) (lastPage? (before ++ pageEvents q reply)) h.selected
      ((before ++ pageEvents q reply).foldl hear h).selected := by
  rw [lastPage?_loaded, List.foldl_append, hear_pageEvents, selected_received]
  refine ((lead.selected h).answered reply).congr (fun id => ?_) fun id b => ?_
  · rw [deletes_append, or_iff_left (not_deletes_pageEvents q reply)]
  · rw [marks_append, or_iff_left (not_marks_pageEvents q reply)]

/-- **What an operation that asks the service does to the open record.** -/
theorem Account.selected {failure : Option ServiceError} {events : List Event}
    (account : Account failure events) (h : History) :
    Selected events (lastPage? events) h.selected (events.foldl hear h).selected := by
  cases account with
  | nothing => exact .refl (fun id b => by simp [Deletes, Marks]) _
  | learned reply =>
    have hselected : ([Event.asked .languages reply].foldl hear h).selected = h.selected :=
      selected_hear_languages h reply
    rw [hselected]
    exact .refl (fun id b => by simp [Deletes, Marks]) _
  | @refused r change e message =>
    have hevents : lastPage? [.asked r (.error e), .notified (.error message)] = none
        ∧ [Event.asked r (.error e), .notified (.error message)].foldl hear h = h := by
      cases r with
      | list q => exact absurd change (by simp [Request.changes])
      | _ => exact ⟨rfl, rfl⟩
    rw [hevents.1, hevents.2]
    exact .refl (refused_quiet r e message) _
  | loaded lead q reply => exact .of_loaded lead q reply h
  | opened q reply reply' =>
    have hselected :
        ((pageEvents q reply ++ [Event.asked .languages reply']).foldl hear h).selected
          = ((pageEvents q reply).foldl hear h).selected := by
      rw [List.foldl_append]
      exact selected_hear_languages _ reply'
    have hpage : lastPage? (pageEvents q reply ++ [.asked .languages reply'])
        = lastPage? (pageEvents q reply) := by
      have hlanguages : [Event.asked .languages reply'].filterMap Event.page? = [] := rfl
      rw [lastPage?, List.filterMap_append, hlanguages, List.append_nil, lastPage?]
    rw [hselected, hpage]
    refine (Selected.of_loaded .nothing q reply h).congr (fun id => ?_) fun id b => ?_
    · rw [deletes_append, or_iff_left (by simp [Deletes])]
      rfl
    · rw [marks_append, or_iff_left (by simp [Marks])]
      rfl

/-! ## All operations -/

theorem Operation.answer?_of_remote {o : Operation} (remote : o.IsRemote)
    (result : Except ServiceError o.Result) (events : List Event) :
    o.answer? result events = lastPage? events := by
  cases o with
  | settle t reply => exact remote.elim
  | _ => rfl

variable {σ : Type}

/-- **A reply that is carried by hand** follows the law like any other, and does nothing if it comes
too late. -/
theorem Selected.of_settle (s : Session σ History) (t : Ticket)
    (reply : Except ServiceError Slice) :
    let out := settleTicket t reply s
    Selected (s.since out.2) ((Operation.settle t reply).answer? out.1 (s.since out.2))
      s.state.selected out.2.state.selected := by
  intro out
  by_cases late : t.number < s.state.issued
  · have hout : out = (.ok .stale, s) := settleTicket_of_late late reply
    have hsince : s.since s = [] := List.drop_length
    have hanswer : (Operation.settle t reply).answer? (.ok .stale) [] = none := by
      cases reply with
      | ok slice => rfl
      | error e => rfl
    rw [hout, hsince, hanswer]
    exact .refl (fun id b => by simp [Deletes, Marks]) _
  · have hout : out = (.ok (s.state.settle t reply).1,
        s.after s.service (s.state.settle t reply).2 (notices reply)) :=
      settleTicket_of_timely late reply
    have quiet : ∀ id b, ¬ Deletes (notices reply) id ∧ ¬ Marks (notices reply) id b := by
      intro id b
      cases reply with
      | ok slice => simp [notices, Deletes, Marks]
      | error e => simp [notices, Deletes, Marks]
    have law := (Selected.refl quiet s.state.selected).answered reply
    rw [hout, Session.since_after]
    cases reply with
    | ok slice => rw [settle_ok late]; exact law
    | error e => rw [settle_error late]; exact law

variable [Service σ]

/-- Every operation but those that open and close a record follows the law. -/
theorem Operation.selected (s : Session σ History) {o : Operation} (opens : ∀ r, o ≠ .select r)
    (closes : o ≠ .deselect) :
    Selected (s.since (o.act s).2) (o.answer? (o.act s).1 (s.since (o.act s).2)) s.state.selected
      (o.act s).2.state.selected := by
  by_cases remote : o.IsRemote
  · obtain ⟨events, account, heard⟩ := o.accounts remote s
    rw [heard.since_eq, o.answer?_of_remote remote, heard.state]
    exact account.selected s.state
  · cases o with
    | select r => exact absurd rfl (opens r)
    | deselect => exact absurd rfl closes
    | issue =>
      change Selected (s.since (issueTicket s).2) (lastPage? (s.since (issueTicket s).2)) _
        (issueTicket s).2.state.selected
      rw [issueTicket_apply, Session.since_after]
      exact .refl (fun id b => by simp [Deletes, Marks]) _
    | settle t reply => exact .of_settle s t reply
    | _ => exact absurd trivial remote

/-- **The law of the open record.**  An operation that opens a record opens that one, and one that
closes it leaves none.  Apart from these two, the number of the open record changes only by the
deletion of that very record, once the service has acknowledged it; and what is open is what the law
says, whatever the service replies. -/
theorem Operation.selection_law (s : Session σ History) (o : Operation) :
    let s' := (o.act s).2
    let events := s.since s'
    (∀ r, o = .select r → s'.state.selected = some r)
    ∧ (o = .deselect → s'.state.selected = none)
    ∧ (s'.state.selectedId ≠ s.state.selectedId → (∃ r, o = .select r) ∨ o = .deselect
        ∨ ∃ id, s.state.selectedId = some id ∧ Deletes events id)
    ∧ ((∀ r, o ≠ .select r) → o ≠ .deselect →
        Selected events (o.answer? (o.act s).1 events) s.state.selected s'.state.selected) := by
  intro s' events
  refine ⟨?_, ?_, fun changed => ?_, fun opens closes => Operation.selected s opens closes⟩
  · rintro r rfl
    rfl
  · rintro rfl
    rfl
  · by_cases opens : ∃ r, o = .select r
    · exact .inl opens
    by_cases closes : o = .deselect
    · exact .inr (.inl closes)
    have law := Operation.selected s (fun r same => opens ⟨r, same⟩) closes
    rcases opened : s.state.selected with _ | r
    · have hclosed : s'.state.selectedId = s.state.selectedId := by
        rw [selectedId, selectedId, law.closed opened, opened]
      exact absurd hclosed changed
    · have hdeleted : ¬ ¬ Deletes events r.id := fun stays => by
        obtain ⟨r', after, same⟩ := law.number opened stays
        have hkept : s'.state.selectedId = s.state.selectedId := by
          rw [selectedId, selectedId, after, opened, Option.map_some, Option.map_some, same]
        exact changed hkept
      exact .inr (.inr ⟨r.id, by rw [selectedId, opened]; rfl, Classical.not_not.1 hdeleted⟩)

end History

end Exposition
