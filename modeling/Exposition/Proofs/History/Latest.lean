import Exposition.Proofs.History.Tracks
import Exposition.Service.Store
import Mathlib.Data.List.Nodup

/-!
# Proofs/History/Latest — the last request wins

A reply is **late** when its ticket is no longer the newest at the moment it is brought.  Leaving
all late replies out of a run gives the same session, with the same transcript
(`Desk.last_ticket_wins`).  The two runs are compared step by step: their logs differ, but never in
the tickets, and nothing that an operation does depends on more of the log than its tickets
(`Desk.Alike`).
-/

namespace Exposition.History

/-- **A late reply**: its ticket is not the newest. -/
def Operation.isLate (log : Log) : Operation → Bool
  | .settle t _ => decide (log.newest? ≠ some t)
  | _ => false

/-! ## Only the tickets of a log matter -/

namespace Log

variable {log log' : Log}

theorem tickets_note_congr (tickets : log.tickets = log'.tickets) (e : Event) :
    (log.note e).tickets = (log'.note e).tickets := by
  cases e with
  | asked r reply =>
    cases r with
    | list q =>
      have hnext : log.next q = log'.next q := by rw [next, next, tickets]
      rw [note, note, tickets_settled, tickets_settled, tickets_issued, tickets_issued, hnext,
        tickets]
    | _ => exact tickets
  | _ => exact tickets

theorem tickets_foldl_note_congr (tickets : log.tickets = log'.tickets) (events : List Event) :
    (events.foldl note log).tickets = (events.foldl note log').tickets := by
  induction events generalizing log log' with
  | nil => exact tickets
  | cons e events ih => exact ih (tickets_note_congr tickets e)

end Log

namespace Desk

variable {σ : Type}

/-- **Two desks that differ only in the replies they have logged.** -/
structure Alike (d d' : Desk σ) : Prop where
  session : d.session = d'.session
  tickets : d.log.tickets = d'.log.tickets

namespace Alike

variable {d d' d'' : Desk σ}

theorem refl (d : Desk σ) : Alike d d := ⟨rfl, rfl⟩

theorem trans (alike : Alike d d') (alike' : Alike d' d'') : Alike d d'' :=
  ⟨alike.session.trans alike'.session, alike.tickets.trans alike'.tickets⟩

end Alike

/-- **A late reply is answered `stale`** and leaves no trace in the session. -/
theorem settleTicket_stale {d : Desk σ} (tracks : Tracks d.log d.session.state) {t : Ticket}
    (known : t ∈ d.log.tickets) (late : d.log.newest? ≠ some t)
    (reply : Except ServiceError Slice) :
    settleTicket t reply d.session = (.ok .stale, d.session) :=
  settleTicket_of_late ((tracks.late_iff known).2 late) reply

variable [Service σ]

namespace Alike

variable {d d' : Desk σ}

/-- **The same operation at desks that are alike.** -/
theorem step (alike : Alike d d') (o : Operation) : Alike (d.step o) (d'.step o) := by
  obtain ⟨s, log⟩ := d
  obtain ⟨s', log'⟩ := d'
  obtain ⟨rfl, tickets⟩ := alike
  by_cases whole : o.IsWhole
  · rw [step_of_whole _ whole, step_of_whole _ whole]
    exact ⟨rfl, Log.tickets_foldl_note_congr tickets _⟩
  · cases o with
    | issue =>
      rw [step_issue, step_issue]
      exact ⟨rfl, congrArg (_ :: ·) tickets⟩
    | settle t reply =>
      by_cases known : t ∈ log.tickets
      · rw [step_settle _ known, step_settle _ (show t ∈ log'.tickets from tickets ▸ known)]
        exact ⟨rfl, tickets⟩
      · rw [step_settle_unknown _ known,
          step_settle_unknown _ (show t ∉ log'.tickets from tickets ▸ known)]
        exact ⟨rfl, tickets⟩
    | _ => exact absurd trivial whole

/-- The same run at desks that are alike. -/
theorem run (alike : Alike d d') (ops : List Operation) : Alike (d.run ops) (d'.run ops) := by
  induction ops generalizing d d' with
  | nil => exact alike
  | cons o ops ih => exact ih (alike.step o)

end Alike

/-! ## Late replies -/

/-- A late reply, brought or not. -/
theorem Alike.of_late {d : Desk σ} (tracks : Tracks d.log d.session.state) {t : Ticket}
    (late : d.log.newest? ≠ some t) (reply : Except ServiceError Slice) :
    Alike (d.step (.settle t reply)) d := by
  by_cases known : t ∈ d.log.tickets
  · rw [d.step_settle known]
    exact ⟨by rw [settleTicket_stale tracks known late], rfl⟩
  · rw [d.step_settle_unknown known]
    exact .refl d

/-- Settling a ticket issues none. -/
theorem tickets_step_settle (d : Desk σ) (t : Ticket) (reply : Except ServiceError Slice) :
    (d.step (.settle t reply)).log.tickets = d.log.tickets := by
  by_cases known : t ∈ d.log.tickets
  · rw [d.step_settle known, Log.tickets_settled]
  · rw [d.step_settle_unknown known]

/-- **A run without its late replies**; what is late is decided in the run as it was. -/
def timely (d : Desk σ) : List Operation → List Operation
  | [] => []
  | o :: ops => if o.isLate d.log then timely (d.step o) ops else o :: timely (d.step o) ops

/-- **Leaving out late replies**, at a desk that may itself have seen fewer of them. -/
theorem Alike.timely {d d' : Desk σ} (alike : Alike d' d) (tracks : Tracks d.log d.session.state)
    (ops : List Operation) : Alike (d'.run (d.timely ops)) (d.run ops) := by
  induction ops generalizing d d' with
  | nil => exact alike
  | cons o ops ih =>
    have hstep := (d.steps o).tracks tracks
    by_cases late : o.isLate d.log
    · rw [Desk.timely, if_pos late, run_cons]
      -- The other desk passes the late reply over; this one logs it, and is still like the other.
      refine ih ?_ hstep
      cases o with
      | settle t reply =>
        obtain ⟨session, tickets⟩ := Alike.of_late tracks (of_decide_eq_true late) reply
        exact alike.trans ⟨session.symm, tickets.symm⟩
      | _ => exact absurd late (by simp [Operation.isLate])
    · rw [Desk.timely, if_neg late, run_cons, run_cons]
      exact ih (alike.step o) hstep

/-! ## Each ticket settled once -/

/-- What is done to bring some replies, one after the other. -/
def settlements (replies : List (Ticket × Except ServiceError Slice)) : List Operation :=
  replies.map fun reply => .settle reply.1 reply.2

/-- Late replies only, however many. -/
theorem Alike.of_all_late {d : Desk σ} (tracks : Tracks d.log d.session.state)
    {replies : List (Ticket × Except ServiceError Slice)}
    (late : ∀ reply ∈ replies, d.log.newest? ≠ some reply.1) :
    Alike (d.run (settlements replies)) d := by
  induction replies with
  | nil => exact .refl d
  | cons reply replies ih =>
    have hreply : Alike (d.step (.settle reply.1 reply.2)) d :=
      .of_late tracks (late reply (List.mem_cons_self ..)) reply.2
    have hreplies := ih fun reply' mem => late reply' (List.mem_cons_of_mem _ mem)
    exact (hreply.run (settlements replies)).trans hreplies

/-- **Replies to different tickets, one of them the newest**: in whatever order they come, it is
that one that counts. -/
theorem Alike.of_newest {d : Desk σ} (tracks : Tracks d.log d.session.state)
    {replies : List (Ticket × Except ServiceError Slice)} (nodup : (replies.map Prod.fst).Nodup)
    {t : Ticket} {reply : Except ServiceError Slice} (newest : d.log.newest? = some t)
    (mem : (t, reply) ∈ replies) :
    Alike (d.run (settlements replies)) (d.step (.settle t reply)) := by
  obtain ⟨before, after, rfl⟩ := List.append_of_mem mem
  rw [List.map_append, List.map_cons, List.nodup_middle, List.nodup_cons, ← List.map_append]
    at nodup
  have hother {other : Ticket × Except ServiceError Slice} (h : other ∈ before ++ after) :
      t ≠ other.1 := by
    intro same
    exact nodup.1 (List.mem_map.2 ⟨other, h, same.symm⟩)
  have hbefore : Alike (d.run (settlements before)) d := .of_all_late tracks fun other h => by
    rw [newest]
    exact fun same => hother (List.mem_append_left _ h) (Option.some.inj same)
  have hstep : Alike ((d.run (settlements before)).step (.settle t reply))
      (d.step (.settle t reply)) := hbefore.step _
  have hnewest : (d.step (.settle t reply)).log.newest? = some t := by
    rw [Log.newest?, d.tickets_step_settle]
    exact newest
  have hafter : Alike ((d.step (.settle t reply)).run (settlements after))
      (d.step (.settle t reply)) := .of_all_late ((d.steps _).tracks tracks) fun other h => by
    rw [hnewest]
    exact fun same => hother (List.mem_append_right _ h) (Option.some.inj same)
  have hrun : d.run (settlements (before ++ (t, reply) :: after))
      = ((d.run (settlements before)).step (.settle t reply)).run (settlements after) := by
    rw [settlements, List.map_append, run_append, List.map_cons, run_cons]
    rfl
  rw [hrun]
  exact (hstep.run _).trans hafter

/-- Tickets that are issued one after the other stand in front of the log. -/
theorem tickets_run_issue (d : Desk σ) (k : Nat) :
    ∃ new, (d.run (List.replicate k .issue)).log.tickets = new ++ d.log.tickets
      ∧ new.length = k := by
  induction k generalizing d with
  | zero => exact ⟨[], rfl, rfl⟩
  | succ k ih =>
    obtain ⟨new, tickets, length⟩ := ih (d.step .issue)
    refine ⟨new ++ [d.session.state.issue.1], ?_, ?_⟩
    · rw [List.replicate_succ, run_cons, tickets, step_issue, Log.tickets_issued,
        List.append_assoc]
      rfl
    · rw [List.length_append, length]
      rfl

/-- **The last request wins.**  From wherever a run has led, a run without its late replies ends in
the same session, with the same transcript; every late reply to a ticket that was issued is answered
`stale` and changes nothing; and if the replies to a row of new tickets are brought in any order,
each once, the session is that of the reply to the newest alone. -/
theorem last_ticket_wins (service : σ) (perPage : Nat) (past : List Operation) :
    let d := (start service perPage).run past
    (∀ ops, (d.run (d.timely ops)).session = (d.run ops).session)
    ∧ (∀ before t reply, t ∈ (d.run before).log.tickets → (d.run before).log.newest? ≠ some t →
        settleTicket t reply (d.run before).session = (.ok .stale, (d.run before).session))
    ∧ ∀ k replies, let issued := d.run (List.replicate (k + 1) .issue)
        (replies.map Prod.fst).Perm (issued.log.tickets.take (k + 1)) →
        ∃ t reply, issued.log.newest? = some t ∧ (t, reply) ∈ replies
          ∧ (issued.run (settlements replies)).session
            = (issued.step (.settle t reply)).session := by
  intro d
  have tracks : Tracks d.log d.session.state := tracks_run (Tracks.start perPage) past
  refine ⟨fun ops => ((Alike.refl d).timely tracks ops).session, ?_, ?_⟩
  · intro before t reply known late
    exact settleTicket_stale (tracks_run tracks before) known late reply
  · intro k replies issued perm
    have tracks' : Tracks issued.log issued.session.state := tracks_run tracks _
    obtain ⟨new, tickets, length⟩ := d.tickets_run_issue (k + 1)
    have htake : issued.log.tickets.take (k + 1) = new := by
      rw [tickets, ← length, List.take_left]
    rw [htake] at perm
    obtain ⟨t, older, rfl⟩ := List.exists_cons_of_length_eq_add_one length
    have newest : issued.log.newest? = some t := by
      rw [Log.newest?, tickets]
      rfl
    have nodup : (replies.map Prod.fst).Nodup := by
      have hall : issued.log.tickets.Nodup := tracks'.numbered.imp fun h same => by
        rw [same] at h
        exact Nat.lt_irrefl _ h
      rw [tickets] at hall
      exact perm.nodup_iff.2 (List.Nodup.of_append_left hall)
    obtain ⟨⟨t', reply⟩, mem, rfl⟩ := List.mem_map.1 (perm.mem_iff.2 (List.mem_cons_self ..))
    exact ⟨t', reply, newest, mem, (Alike.of_newest tracks' nodup newest mem).session⟩

/-- Two tickets, and the failure of the first comes last. -/
theorem last_ticket_wins_of_two :
    let first : Ticket := ⟨1, 1, 12, {}⟩
    let second : Ticket := ⟨2, 1, 12, {}⟩
    let d : Desk Store := (start ⟨[], [], []⟩ 12).run [.issue, .issue]
    (first ∈ d.log.tickets ∧ d.log.newest? ≠ some first
      ∧ settleTicket first (.ok ⟨[], 5⟩) d.session = (.ok .stale, d.session))
    ∧ [second, first].Perm (d.log.tickets.take 2)
    ∧ (d.run [.settle second (.ok ⟨[], 3⟩), .settle first (.error (.transport "down"))]).session
      = (d.step (.settle second (.ok ⟨[], 3⟩))).session := by
  intro first second d
  have known : first ∈ d.log.tickets := by decide
  have late : d.log.newest? ≠ some first := by decide
  have perm : [second, first].Perm (d.log.tickets.take 2) := .refl _
  obtain ⟨-, stale, wins⟩ := last_ticket_wins (⟨[], [], []⟩ : Store) 12 []
  obtain ⟨t, reply, newest, mem, same⟩ :=
    wins 1 [(second, .ok ⟨[], 3⟩), (first, .error (.transport "down"))] perm
  obtain rfl : second = t := Option.some.inj newest
  obtain rfl : reply = .ok ⟨[], 3⟩ := by
    rcases List.mem_cons.1 mem with h | h
    · exact (Prod.mk.inj h).2
    · exact absurd (Prod.mk.inj (List.mem_singleton.1 h)).1 (by decide)
  exact ⟨⟨known, late, stale [.issue, .issue] first _ known late⟩, perm, same⟩

end Desk

end Exposition.History
