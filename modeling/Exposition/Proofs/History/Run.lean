import Exposition.Proofs.History.Walk

/-!
# Proofs/History/Run — a history at work, and the log of its tickets

Whoever holds a history calls its operations in any order, and may also carry tickets by hand: issue
one, bring a reply to it later, or twice, or never.  A **desk** is a history at work together with
the **log** of what was issued and what was settled, so that "the newest ticket", "the last reply to
it" and "the last answer that counted" are read off the log and not off the state they explain.

The log knows only what can be seen from outside.  A load shows its ticket and the reply to it as
one exchange with the service; a ticket carried by hand shows itself when it is issued and each time
it is settled.
-/

namespace Exposition.History

/-! ## Operations -/

/-- **What can be done with a history.** -/
inductive Operation
  | openUp
  | learnLanguages
  | load
  | filterBy (filters : Filters)
  | liftFilters
  | turnBy (delta : Int)
  | turnForward
  | turnBack
  | jumpTo (page : Nat)
  | markFavorite (id : Int) (isFavorite : Bool)
  | toggleOpen
  | discard (id : Int) (confirmed : Bool)
  | discardOpen (confirmed : Bool)
  | select (record : Record)
  | deselect
  /-- A ticket is issued to be carried by hand. -/
  | issue
  /-- A reply to a ticket is brought back. -/
  | settle (ticket : Ticket) (reply : Except ServiceError Slice)

namespace Operation

/-- What an operation gives. -/
@[reducible] def Result : Operation → Type
  | .openUp | .learnLanguages | .load | .filterBy _ | .liftFilters => Unit
  | .turnBy _ | .turnForward | .turnBack | .jumpTo _ => Bool
  | .markFavorite _ _ => Unit
  | .toggleOpen | .discard _ _ | .discardOpen _ => Bool
  | .select _ | .deselect => Unit
  | .issue => Ticket
  | .settle _ _ => Outcome

variable {σ : Type} [Service σ]

/-- **What an operation does.** -/
def act : (o : Operation) → Act σ o.Result
  | .openUp => History.openUp
  | .learnLanguages => History.learnLanguages
  | .load => History.load
  | .filterBy filters => History.filterBy filters
  | .liftFilters => History.liftFilters
  | .turnBy delta => History.turnBy delta
  | .turnForward => History.turnForward
  | .turnBack => History.turnBack
  | .jumpTo page => History.jumpTo page
  | .markFavorite id isFavorite => History.markFavorite id isFavorite
  | .toggleOpen => History.toggleOpen
  | .discard id confirmed => History.discard id confirmed
  | .discardOpen confirmed => History.discardOpen confirmed
  | .select r => Action.update (·.select r)
  | .deselect => Action.update (·.deselect)
  | .issue => issueTicket
  | .settle ticket reply => settleTicket ticket reply

/-- The operation carries no ticket by hand. -/
def IsWhole : Operation → Prop
  | .issue => False
  | .settle _ _ => False
  | _ => True

/-- What an operation may ask for besides pages. -/
def MayAsk : Operation → Request → Prop
  | .openUp, r => r = .languages
  | .learnLanguages, r => r = .languages
  | .markFavorite id isFavorite, r => r = .mark id isFavorite
  | .toggleOpen, r => ∃ id isFavorite, r = .mark id isFavorite
  | .discard id _, r => r = .delete id
  | .discardOpen _, r => ∃ id, r = .delete id
  | _, _ => False

variable {o : Operation}

theorem MayAsk.ne_list {r : Request} (may : o.MayAsk r) (q : Query) : r ≠ .list q := by
  rintro rfl
  cases o with
  | _ => simp [MayAsk] at may

/-- **An operation that carries no ticket is a walk.** -/
theorem walks {allowed : Request → Prop} (whole : o.IsWhole) (may : ∀ r, o.MayAsk r → allowed r) :
    Walks allowed (o.act : Act σ o.Result) := by
  cases o with
  | openUp => exact .openUp (may _ rfl)
  | learnLanguages => exact .learnLanguages (may _ rfl)
  | load => exact .load
  | filterBy filters => exact .filterBy filters
  | liftFilters => exact .filterBy {}
  | turnBy delta => exact .turnBy delta
  | turnForward => exact .turnBy 1
  | turnBack => exact .turnBy (-1)
  | jumpTo page => exact .jumpTo page
  | markFavorite id isFavorite => exact .markFavorite (may _ rfl)
  | toggleOpen => exact .toggleOpen fun id isFavorite => may _ ⟨id, isFavorite, rfl⟩
  | discard id confirmed => exact .discard (may _ rfl) confirmed
  | discardOpen confirmed => exact .discardOpen (fun id => may _ ⟨id, rfl⟩) confirmed
  | select r => exact .update fun h => ⟨some r, h.languages, rfl⟩
  | deselect => exact .update fun h => ⟨none, h.languages, rfl⟩
  | issue => exact whole.elim
  | settle ticket reply => exact whole.elim

end Operation

/-! ## The log -/

/-- One entry of the log. -/
inductive Passage
  | issued (ticket : Ticket)
  | settled (ticket : Ticket) (reply : Except ServiceError Slice)

/-- **What was issued and what was settled**, the latest first. -/
abbrev Log := List Passage

namespace Log

/-- The tickets that were issued, the newest first. -/
def tickets (log : Log) : List Ticket :=
  log.filterMap fun
    | .issued t => some t
    | .settled _ _ => none

/-- The newest ticket. -/
def newest? (log : Log) : Option Ticket := log.tickets.head?

/-- **The last reply to the newest ticket**, if one has come. -/
def reply? : Log → Option (Except ServiceError Slice)
  | [] => none
  | .issued _ :: _ => none
  | .settled t reply :: log => if newest? log = some t then some reply else reply? log

/-- **The last answer that counted**: when it came, its ticket was the newest. -/
def answer? : Log → Option Slice
  | [] => none
  | .issued _ :: log => answer? log
  | .settled _ (.error _) :: log => answer? log
  | .settled t (.ok slice) :: log => if newest? log = some t then some slice else answer? log

/-- The next ticket for a query. -/
def next (log : Log) (q : Query) : Ticket := ⟨log.tickets.length + 1, q⟩

/-- The log after one more event: a page that was asked for takes a ticket, and the reply settles
it. -/
def note (log : Log) : Event → Log
  | .asked (.list q) reply => .settled (log.next q) reply :: .issued (log.next q) :: log
  | _ => log

end Log

/-! ## Desks -/

/-- **A history at work.** -/
structure Desk (σ : Type) where
  session : Session σ History
  log : Log := []

/-- What an operation adds to the log: a ticket carried by hand is seen when it is issued and when
it is settled, and all other tickets in the events. -/
def Operation.logged : (o : Operation) → Except ServiceError o.Result → List Event → Log → Log
  | .issue, .ok t, _, log => .issued t :: log
  | .settle t reply, _, _, log => .settled t reply :: log
  | _, _, events, log => events.foldl Log.note log

/-- A reply can only be brought to a ticket that was issued. -/
def Operation.isPossible (log : Log) : Operation → Bool
  | .settle t _ => decide (t ∈ log.tickets)
  | _ => true

namespace Desk

variable {σ : Type}

/-- A desk at which nothing has been done. -/
def start (service : σ) (perPage : Nat) : Desk σ where
  session := { service, state := .start perPage }

variable [Service σ]

/-- **One operation at a desk.**  One that is not possible is passed over. -/
def step (d : Desk σ) (o : Operation) : Desk σ :=
  if o.isPossible d.log then
    let (result, session) := o.act d.session
    ⟨session, o.logged result (d.session.since session) d.log⟩
  else d

/-- **Several operations at a desk**, one after the other. -/
def run (d : Desk σ) (ops : List Operation) : Desk σ := ops.foldl step d

@[simp] theorem run_nil (d : Desk σ) : d.run [] = d := rfl

@[simp] theorem run_cons (d : Desk σ) (o : Operation) (ops : List Operation) :
    d.run (o :: ops) = (d.step o).run ops := rfl

theorem run_append (d : Desk σ) (ops ops' : List Operation) :
    d.run (ops ++ ops') = (d.run ops).run ops' := List.foldl_append ..

/-! ### What a step comes to -/

end Desk

namespace Operation

variable {o : Operation}

theorem isPossible_of_whole (whole : o.IsWhole) (log : Log) : o.isPossible log = true := by
  cases o with
  | settle => exact whole.elim
  | _ => rfl

theorem logged_of_whole (whole : o.IsWhole) (result : Except ServiceError o.Result)
    (events : List Event) (log : Log) :
    o.logged result events log = events.foldl Log.note log := by
  cases o with
  | issue => exact whole.elim
  | settle => exact whole.elim
  | _ => rfl

end Operation

namespace Desk

variable {σ : Type} [Service σ]

theorem step_of_whole (d : Desk σ) {o : Operation} (whole : o.IsWhole) :
    d.step o = ⟨(o.act d.session).2,
      (d.session.since (o.act d.session).2).foldl Log.note d.log⟩ := by
  rw [step, if_pos (o.isPossible_of_whole whole d.log)]
  simp only [o.logged_of_whole whole]
  rfl

theorem step_issue (d : Desk σ) : d.step .issue
    = ⟨d.session.after d.session.service d.session.state.issue.2 [],
      .issued d.session.state.issue.1 :: d.log⟩ := by
  rw [step, if_pos (by rfl)]
  change Desk.mk (issueTicket d.session).2
    (Operation.logged .issue (issueTicket d.session).1 _ _) = _
  rw [issueTicket_apply]
  rfl

theorem step_settle (d : Desk σ) {t : Ticket} (known : t ∈ d.log.tickets)
    (reply : Except ServiceError Slice) : d.step (.settle t reply)
    = ⟨(settleTicket t reply d.session).2, .settled t reply :: d.log⟩ := by
  have possible : (Operation.settle t reply).isPossible d.log = true := decide_eq_true known
  rw [step, if_pos possible]
  rfl

theorem step_settle_unknown (d : Desk σ) {t : Ticket} (unknown : t ∉ d.log.tickets)
    (reply : Except ServiceError Slice) : d.step (.settle t reply) = d := by
  rw [step, if_neg (by simpa [Operation.isPossible] using unknown)]

/-- **The ways a step can go.** -/
inductive Step (d : Desk σ) : Operation → Desk σ → Prop
  | whole {o : Operation} (whole : o.IsWhole) : Step d o
      ⟨(o.act d.session).2, (d.session.since (o.act d.session).2).foldl Log.note d.log⟩
  | issue : Step d .issue
      ⟨d.session.after d.session.service d.session.state.issue.2 [],
        .issued d.session.state.issue.1 :: d.log⟩
  /-- A reply that comes too late. -/
  | late {t : Ticket} (known : t ∈ d.log.tickets) (late : t.number < d.session.state.issued)
    (reply : Except ServiceError Slice) :
    Step d (.settle t reply) ⟨d.session, .settled t reply :: d.log⟩
  /-- A reply that takes effect. -/
  | timely {t : Ticket} (known : t ∈ d.log.tickets) (timely : ¬ t.number < d.session.state.issued)
    (reply : Except ServiceError Slice) :
    Step d (.settle t reply)
      ⟨d.session.after d.session.service (d.session.state.settle t reply).2 (notices reply),
        .settled t reply :: d.log⟩
  /-- A reply to no ticket. -/
  | pass {t : Ticket} (unknown : t ∉ d.log.tickets) (reply : Except ServiceError Slice) :
    Step d (.settle t reply) d

theorem steps (d : Desk σ) (o : Operation) : Step d o (d.step o) := by
  by_cases whole : o.IsWhole
  · rw [d.step_of_whole whole]
    exact .whole whole
  · cases o with
    | issue =>
      rw [d.step_issue]
      exact .issue
    | settle t reply =>
      by_cases known : t ∈ d.log.tickets
      · rw [d.step_settle known]
        by_cases late : t.number < d.session.state.issued
        · rw [settleTicket_of_late late]
          exact .late known late reply
        · rw [settleTicket_of_timely late]
          exact .timely known late reply
      · rw [d.step_settle_unknown known]
        exact .pass known reply
    | _ => exact absurd trivial whole

/-- **What every step keeps, every run keeps.** -/
theorem run_keeps {P : Desk σ → Prop} (keeps : ∀ {d d' : Desk σ} {o}, Step d o d' → P d → P d')
    {d : Desk σ} (holds : P d) (ops : List Operation) : P (d.run ops) := by
  induction ops generalizing d with
  | nil => exact holds
  | cons o ops ih => exact ih (keeps (d.steps o) holds)

/-! ### What has passed stays -/

theorem Step.transcript {d d' : Desk σ} {o : Operation} (step : Step d o d') :
    d.session.transcript <+: d'.session.transcript := by
  cases step with
  | whole whole =>
    obtain ⟨events, walk⟩ := o.walks whole (fun _ may => may.ne_list) d.session
    exact ⟨events, walk.transcript.symm⟩
  | issue => exact ⟨[], rfl⟩
  | late => exact List.prefix_refl _
  | timely _ _ reply => exact ⟨notices reply, rfl⟩
  | pass => exact List.prefix_refl _

theorem transcript_run (d : Desk σ) (ops : List Operation) :
    d.session.transcript <+: (d.run ops).session.transcript :=
  run_keeps (P := fun d' => d.session.transcript <+: d'.session.transcript)
    (fun step passed => passed.trans step.transcript) (List.prefix_refl _) ops

/-- The first step of a run that is smooth from the start. -/
theorem smooth_step {d : Desk σ} {o : Operation} {ops : List Operation}
    (smooth : Smooth ((d.step o).run ops).session.transcript) :
    Smooth (d.session.since (d.step o).session) := fun e mem =>
  smooth e (((d.step o).transcript_run ops).subset (List.mem_of_mem_drop mem))

end Desk

end Exposition.History
