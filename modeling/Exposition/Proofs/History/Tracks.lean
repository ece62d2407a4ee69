import Exposition.Proofs.History.Run

/-!
# Proofs/History/Tracks — what a history shows is what its log says

After any run the records and their number are those of the last answer that counted, the newest
ticket asks for the current page, and the list area tells what became of that ticket
(`shows_what_the_log_says`).  Two facts carry it: issuing a ticket keeps the invariant `Tracks` even
when the page or the filters have just moved (`Tracks.issue`), and so does settling one, whether its
reply counts or comes too late (`Tracks.settle`).  A load is the one followed by the other.
-/

namespace Exposition.History

/-! ## Reading the log -/

namespace Log

@[simp] theorem tickets_issued (t : Ticket) (log : Log) :
    tickets (.issued t :: log) = t :: tickets log := rfl

@[simp] theorem tickets_settled (t : Ticket) (reply : Except ServiceError Slice) (log : Log) :
    tickets (.settled t reply :: log) = tickets log := rfl

@[simp] theorem newest?_issued (t : Ticket) (log : Log) : newest? (.issued t :: log) = some t := rfl

@[simp] theorem newest?_settled (t : Ticket) (reply : Except ServiceError Slice) (log : Log) :
    newest? (.settled t reply :: log) = newest? log := rfl

/-- A page that was asked for in one go is a ticket and the reply to it. -/
theorem note_pageEvents (log : Log) (q : Query) (reply : Except ServiceError Slice) :
    (pageEvents q reply).foldl note log
      = .settled (log.next q) reply :: .issued (log.next q) :: log := by
  cases reply with
  | ok slice => rfl
  | error e => rfl

/-- The log takes no note of other requests. -/
theorem note_of_other {log : Log} {r : Request} {reply : r.Reply} (other : ∀ q, r ≠ .list q) :
    log.note (.asked r reply) = log := by
  cases r with
  | list q => exact absurd rfl (other q)
  | _ => rfl

/-- **An answer to the newest ticket is the last one that counted.** -/
theorem answer?_of_reply? {log : Log} {slice : Slice} (answered : log.reply? = some (.ok slice)) :
    log.answer? = some slice := by
  induction log with
  | nil => exact absurd answered (by simp [reply?])
  | cons passage log ih =>
    cases passage with
    | issued t => exact absurd answered (by simp [reply?])
    | settled t reply =>
      by_cases newest : newest? log = some t
      · rw [reply?, if_pos newest] at answered
        obtain rfl : reply = .ok slice := Option.some.inj answered
        rw [answer?, if_pos newest]
      · rw [reply?, if_neg newest] at answered
        cases reply with
        | ok _ => rw [answer?, if_neg newest, ih answered]
        | error _ => rw [answer?, ih answered]

/-- **What the list area shows**, as the log tells it. -/
def view (log : Log) : View :=
  match log.newest?, log.reply? with
  | none, _ => .idle
  | some _, none => .loading
  | some _, some (.ok slice) => if slice.records.isEmpty then .empty else .items
  | some _, some (.error _) => .failed loadFailure

theorem view_settled_of_newest {log : Log} {t : Ticket} (newest : log.newest? = some t)
    (reply : Except ServiceError Slice) : view (.settled t reply :: log) = match reply with
      | .ok slice => if slice.records.isEmpty then .empty else .items
      | .error _ => .failed loadFailure := by
  cases reply with
  | ok slice => simp only [view, newest?_settled, newest, reply?, if_true]
  | error e => simp only [view, newest?_settled, newest, reply?, if_true]

theorem view_settled_of_late {log : Log} {t : Ticket} (late : log.newest? ≠ some t)
    (reply : Except ServiceError Slice) : view (.settled t reply :: log) = log.view := by
  simp only [view, newest?_settled, reply?, if_neg late]

theorem answer?_settled_of_late {log : Log} {t : Ticket} (late : log.newest? ≠ some t)
    (reply : Except ServiceError Slice) : answer? (.settled t reply :: log) = log.answer? := by
  cases reply with
  | ok slice => rw [answer?, if_neg late]
  | error e => rw [answer?]

end Log

/-! ## The invariant -/

/-- **A history tracks its log.** -/
structure Tracks (log : Log) (h : History) : Prop where
  issued : h.issued = log.tickets.length
  /-- Tickets are numbered in the order in which they were issued. -/
  numbered : log.tickets.Pairwise fun t t' => t'.number < t.number
  newest : ∀ t, log.newest? = some t → t.number = h.issued ∧ t.query = h.query
  records : h.records = (log.answer?.map Slice.records).getD []
  totalCount : h.paging.totalCount = (log.answer?.map Slice.totalCount).getD 0
  view : h.view = log.view

namespace Tracks

variable {log : Log} {h h' : History}

theorem start (perPage : Nat) : Tracks [] (.start perPage) where
  issued := rfl
  numbered := .nil
  newest := fun _ newest => by simp [Log.newest?, Log.tickets] at newest
  records := rfl
  totalCount := rfl
  view := rfl

theorem number_le (tracks : Tracks log h) {t : Ticket} (known : t ∈ log.tickets) :
    t.number ≤ h.issued := by
  rcases tickets : log.tickets with _ | ⟨n, older⟩
  · rw [tickets] at known
    exact absurd known (by simp)
  · have hn : n.number = h.issued := (tracks.newest n (by rw [Log.newest?, tickets]; rfl)).1
    have numbered := tracks.numbered
    rw [tickets, List.pairwise_cons] at numbered
    rw [tickets, List.mem_cons] at known
    rcases known with rfl | known
    · exact Nat.le_of_eq hn
    · exact hn ▸ Nat.le_of_lt (numbered.1 t known)

/-- **A ticket is late exactly when it is not the newest.** -/
theorem late_iff (tracks : Tracks log h) {t : Ticket} (known : t ∈ log.tickets) :
    t.number < h.issued ↔ log.newest? ≠ some t := by
  constructor
  · intro late newest
    exact absurd (tracks.newest t newest).1 (Nat.ne_of_lt late)
  · intro older
    rcases tickets : log.tickets with _ | ⟨n, rest⟩
    · rw [tickets] at known
      exact absurd known (by simp)
    · have newest : log.newest? = some n := by rw [Log.newest?, tickets]; rfl
      have numbered := tracks.numbered
      rw [tickets, List.pairwise_cons] at numbered
      rw [tickets, List.mem_cons] at known
      rcases known with rfl | known
      · exact absurd newest older
      · exact (tracks.newest n newest).1 ▸ numbered.1 t known

/-- What the history knows besides the list is no matter of the log. -/
theorem of_aside (tracks : Tracks log h) (selected : Option Record)
    (languages : List OfferedLanguage) : Tracks log { h with selected, languages } where
  issued := tracks.issued
  numbered := tracks.numbered
  newest := tracks.newest
  records := tracks.records
  totalCount := tracks.totalCount
  view := tracks.view

/-- **Issuing a ticket**, also after a move: the new ticket asks for where the history now is. -/
theorem issue (tracks : Tracks log h) (move : Move h h') :
    Tracks (.issued h'.issue.1 :: log) h'.issue.2 := by
  obtain ⟨records, totalCount, -, -, issued⟩ := move.kept
  refine ⟨?_, ?_, ?_, ?_, ?_, rfl⟩
  · change h'.issued + 1 = log.tickets.length + 1
    rw [issued, tracks.issued]
  · refine List.pairwise_cons.2 ⟨fun t known => ?_, tracks.numbered⟩
    change t.number < h'.issued + 1
    rw [issued]
    exact Nat.lt_succ_of_le (tracks.number_le known)
  · intro t newest
    obtain rfl : h'.issue.1 = t := Option.some.inj newest
    exact ⟨rfl, rfl⟩
  · exact records.trans tracks.records
  · exact totalCount.trans tracks.totalCount

/-- A reply to the newest ticket takes effect. -/
theorem settle_newest (tracks : Tracks log h) {t : Ticket} (newest : log.newest? = some t)
    (reply : Except ServiceError Slice) :
    Tracks (.settled t reply :: log) (h.settle t reply).2 := by
  have timely : ¬ t.number < h.issued := by
    rw [(tracks.newest t newest).1]
    exact Nat.lt_irrefl _
  cases reply with
  | ok slice =>
    rw [settle_ok timely]
    refine ⟨tracks.issued, tracks.numbered, tracks.newest, ?_, ?_, ?_⟩
    · rw [Log.answer?, if_pos newest]; rfl
    · rw [Log.answer?, if_pos newest]; rfl
    · rw [Log.view_settled_of_newest newest]; rfl
  | error e =>
    rw [settle_error timely]
    refine ⟨tracks.issued, tracks.numbered, tracks.newest, ?_, ?_, ?_⟩
    · rw [Log.answer?]; exact tracks.records
    · rw [Log.answer?]; exact tracks.totalCount
    · rw [Log.view_settled_of_newest newest]

/-- **Settling a ticket**, in time or too late. -/
theorem settle (tracks : Tracks log h) {t : Ticket} (known : t ∈ log.tickets)
    (reply : Except ServiceError Slice) :
    Tracks (.settled t reply :: log) (h.settle t reply).2 := by
  by_cases newest : log.newest? = some t
  · exact tracks.settle_newest newest reply
  · rw [settle_of_late ((tracks.late_iff known).2 newest)]
    refine ⟨tracks.issued, tracks.numbered, tracks.newest, ?_, ?_, ?_⟩
    · rw [Log.answer?_settled_of_late newest]; exact tracks.records
    · rw [Log.answer?_settled_of_late newest]; exact tracks.totalCount
    · rw [Log.view_settled_of_late newest]; exact tracks.view

/-- The next ticket of the log is the one that the history issues. -/
theorem next_eq (tracks : Tracks log h) (move : Move h h') :
    log.next h'.query = h'.issue.1 := by
  obtain ⟨-, -, -, -, issued⟩ := move.kept
  rw [Log.next, ← tracks.issued, ← issued]
  rfl

/-- A load after a move: a ticket is issued, and the reply settles it. -/
theorem received (tracks : Tracks log h) (move : Move h h') (reply : Except ServiceError Slice) :
    Tracks (.settled (log.next h'.query) reply :: .issued (log.next h'.query) :: log)
      (h'.received reply) := by
  rw [tracks.next_eq move]
  exact (tracks.issue move).settle_newest rfl reply

end Tracks

/-! ## Strides, walks and runs keep it -/

variable {σ : Type} [Service σ]

theorem Stride.tracks {s s' : Session σ History} {events : List Event} {log : Log}
    (stride : Stride (fun r => ∀ q, r ≠ .list q) s events s') (tracks : Tracks log s.state) :
    Tracks (events.foldl Log.note log) s'.state := by
  cases stride with
  | fetch move _ =>
    rw [Log.note_pageEvents]
    exact tracks.received move _
  | @exchange r reply service other _ =>
    rw [List.foldl_cons, List.foldl_nil, Log.note_of_other other]
    exact tracks
  | tell => exact tracks
  | aside selected languages => exact tracks.of_aside selected languages

theorem Walk.tracks {s s' : Session σ History} {events : List Event} {log : Log}
    (walk : Walk (fun r => ∀ q, r ≠ .list q) s events s') (tracks : Tracks log s.state) :
    Tracks (events.foldl Log.note log) s'.state := by
  induction walk with
  | rest => exact tracks
  | on _ stride ih =>
    rw [List.foldl_append]
    exact stride.tracks ih

/-- **What every operation keeps.** -/
theorem Desk.Step.tracks {d d' : Desk σ} {o : Operation} (step : Step d o d')
    (tracks : Tracks d.log d.session.state) : Tracks d'.log d'.session.state := by
  cases step with
  | whole whole =>
    obtain ⟨events, walk⟩ := o.walks whole (fun _ may => may.ne_list) d.session
    rw [walk.since_eq]
    exact walk.tracks tracks
  | issue => exact tracks.issue (.stay _)
  | late known late reply =>
    have hsettled := tracks.settle known reply
    rwa [settle_of_late late] at hsettled
  | timely known timely reply => exact tracks.settle known reply
  | pass unknown reply => exact tracks

namespace Desk

/-- **What every run keeps.** -/
theorem tracks_run {d : Desk σ} (tracks : Tracks d.log d.session.state) (ops : List Operation) :
    Tracks (d.run ops).log (d.run ops).session.state :=
  run_keeps (P := fun d => Tracks d.log d.session.state) (fun step => step.tracks) tracks ops

end Desk

/-! ## What the list area tells -/

namespace Log

variable {log : Log}

/-- **What the list area tells besides records**: that nothing was asked for yet, that the newest
ticket waits for its reply, or that it has failed. -/
theorem view_iff : (log.view = .idle ↔ log.newest? = none)
    ∧ (log.view = .loading ↔ (∃ t, log.newest? = some t) ∧ log.reply? = none)
    ∧ ∀ message, log.view = .failed message
      ↔ message = loadFailure ∧ ∃ t e, log.newest? = some t ∧ log.reply? = some (.error e) := by
  rcases hn : log.newest? with _ | t
  · simp [view, hn]
  · rcases hr : log.reply? with _ | e | slice
    · simp [view, hn, hr]
    · simp [view, hn, hr, eq_comm]
    · cases hs : slice.records.isEmpty <;> simp [view, hn, hr, hs]

/-- Records, or the lack of them, are shown when the newest ticket was answered last. -/
theorem of_view_items_or_empty (shown : log.view = .items ∨ log.view = .empty) :
    ∃ t slice, log.newest? = some t ∧ log.reply? = some (.ok slice)
      ∧ (log.view = .items ↔ slice.records ≠ []) := by
  rcases hn : log.newest? with _ | t
  · simp [view, hn] at shown
  · rcases hr : log.reply? with _ | e | slice
    · simp [view, hn, hr] at shown
    · simp [view, hn, hr] at shown
    · refine ⟨t, slice, rfl, rfl, ?_⟩
      rcases hs : slice.records with _ | ⟨r, rs⟩
      · simp [view, hn, hr, hs]
      · simp [view, hn, hr, hs]

end Log

/-- **After every run a history shows what its log says.**  The records and their number are those
of the last answer that counted; the newest ticket asks for the page where the history now is;
records are shown only if they answer that ticket; and the list area waits while no reply to it has
come, complains if the last reply to it was a failure, and shows nothing if there is no ticket. -/
theorem Desk.shows_what_the_log_says (service : σ) (perPage : Nat) (ops : List Operation) :
    let d := (Desk.start service perPage).run ops
    let h := d.session.state
    (h.records = (d.log.answer?.map Slice.records).getD []
      ∧ h.paging.totalCount = (d.log.answer?.map Slice.totalCount).getD 0
      ∧ h.paging.totalPages = pagesFor h.paging.totalCount h.paging.perPage)
    ∧ (∀ t, d.log.newest? = some t → t.query = ⟨h.paging.page, h.paging.perPage, h.filters⟩)
    ∧ (h.view = .items ∨ h.view = .empty →
        (∃ t slice, d.log.newest? = some t ∧ d.log.reply? = some (.ok slice)
          ∧ h.records = slice.records)
        ∧ (h.view = .items ↔ h.records ≠ []))
    ∧ (h.view = .loading ↔ (∃ t, d.log.newest? = some t) ∧ d.log.reply? = none)
    ∧ (∀ message, h.view = .failed message
        ↔ message = loadFailure ∧ ∃ t e, d.log.newest? = some t ∧ d.log.reply? = some (.error e))
    ∧ (h.view = .idle ↔ d.log.newest? = none) := by
  intro d h
  have tracks : Tracks d.log h := Desk.tracks_run (Tracks.start perPage) ops
  refine ⟨⟨tracks.records, tracks.totalCount, rfl⟩, fun t newest => (tracks.newest t newest).2,
    ?_, ?_, ?_, ?_⟩
  · rw [tracks.view]
    intro shown
    obtain ⟨t, slice, newest, answered, items⟩ := Log.of_view_items_or_empty shown
    have hrecords : h.records = slice.records := by
      rw [tracks.records, Log.answer?_of_reply? answered]
      rfl
    exact ⟨⟨t, slice, newest, answered, hrecords⟩, hrecords ▸ items⟩
  · rw [tracks.view]
    exact Log.view_iff.2.1
  · intro message
    rw [tracks.view]
    exact Log.view_iff.2.2 message
  · rw [tracks.view]
    exact Log.view_iff.1

end Exposition.History
