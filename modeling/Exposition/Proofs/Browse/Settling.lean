import Exposition.Browse.Debouncer
import Mathlib.Data.List.FinRange

/-!
# Proofs/Browse/Settling — which values settle, and when

A debouncer is a loop that waits for the next push and, while a value is pending, for the end of a
pause that starts anew with every push.  Which of the two comes first is open only if a push comes
at the very moment at which the pause ends; without such a tie there is one way to go, the one that
`Debouncer.run` takes (`loop_iff`).

What comes out can be said without the loop: the values after which nothing is pushed for longer
than the delay (`settled`), each as much later as the delay is long.  Both are the same
(`Debouncer.settles_after_the_pause`), since a value that is pending settles or not by the next push
alone (`run_pending`).
-/

namespace Exposition.Browse.Debouncer

variable {α : Type} {delay : Nat} {pushes rest out : List (Nat × α)}

/-! ## The loop -/

/-- **A pause**: after a push, nothing is pushed for the time of the delay. -/
def Quiet (delay pushed : Nat) (rest : List (Nat × α)) : Prop :=
  ∀ push ∈ rest.head?, pushed + delay ≤ push.1

instance (delay pushed : Nat) (rest : List (Nat × α)) : Decidable (Quiet delay pushed rest) :=
  inferInstanceAs (Decidable (∀ push ∈ rest.head?, pushed + delay ≤ push.1))

theorem quiet_cons {pushed : Nat} {push : Nat × α} :
    Quiet delay pushed (push :: rest) ↔ pushed + delay ≤ push.1 := by
  simp [Quiet]

/-- **The ways the loop can go**: with a value pending or none, and some pushes to come, these
values settle. -/
inductive Loop (delay : Nat) : Option (Nat × α) → List (Nat × α) → List (Nat × α) → Prop
  | idle : Loop delay none [] []
  /-- Nothing is pending, and a value is pushed. -/
  | receive {push : Nat × α} {rest out : List (Nat × α)} (loop : Loop delay (some push) rest out) :
    Loop delay none (push :: rest) out
  /-- A newer value is pushed before the pause has ended. -/
  | supersede {pushed : Nat} {value : α} {push : Nat × α} {rest out : List (Nat × α)}
    (early : push.1 ≤ pushed + delay) (loop : Loop delay (some push) rest out) :
    Loop delay (some (pushed, value)) (push :: rest) out
  /-- The pause ends before a newer value is pushed. -/
  | settle {pushed : Nat} {value : α} {rest out : List (Nat × α)}
    (quiet : Quiet delay pushed rest) (loop : Loop delay none rest out) :
    Loop delay (some (pushed, value)) rest ((pushed + delay, value) :: out)

/-- **What comes of a push**: its value, if a pause follows. -/
def outcome (delay : Nat) (push : Nat × α) (rest : List (Nat × α)) : List (Nat × α) :=
  if Quiet delay push.1 rest then [(push.1 + delay, push.2)] else []

theorem outcome_of_quiet {push : Nat × α} (quiet : Quiet delay push.1 rest) :
    outcome delay push rest = [(push.1 + delay, push.2)] := if_pos quiet

theorem outcome_of_not_quiet {push : Nat × α} (early : ¬ Quiet delay push.1 rest) :
    outcome delay push rest = [] := if_neg early

/-- Whatever comes of a push is its value after the delay. -/
theorem eq_of_mem_outcome {push settles : Nat × α} (mem : settles ∈ outcome delay push rest) :
    settles = (push.1 + delay, push.2) := by
  rw [outcome] at mem
  split at mem
  · exact List.mem_singleton.1 mem
  · exact absurd mem List.not_mem_nil

/-- A value that is pushed when nothing is pending. -/
theorem run_idle (push : Nat × α) (rest : List (Nat × α)) :
    run { delay } (push :: rest) = run { delay, pending := some push } rest := rfl

/-- **What is pending settles or not by the next push alone**, and the rest goes on without it. -/
theorem run_pending (delay : Nat) (push : Nat × α) (rest : List (Nat × α)) :
    run { delay, pending := some push } rest = outcome delay push rest ++ run { delay } rest := by
  cases rest with
  | nil => rfl
  | cons next rest =>
    by_cases quiet : push.1 + delay ≤ next.1
    · rw [outcome_of_quiet (quiet_cons.2 quiet), run, settle]
      simp only [quiet, if_true]
      rfl
    · rw [outcome_of_not_quiet (mt quiet_cons.1 quiet), run, settle]
      simp only [quiet, if_false]
      rfl

theorem run_push (delay : Nat) (push : Nat × α) (rest : List (Nat × α)) :
    run { delay } (push :: rest) = outcome delay push rest ++ run { delay } rest := by
  rw [run_idle, run_pending]

/-- **The loop can always go as the debouncer runs.** -/
theorem loop_run (pending : Option (Nat × α)) (pushes : List (Nat × α)) :
    Loop delay pending pushes (run { delay, pending } pushes) := by
  induction pushes generalizing pending with
  | nil =>
    cases pending with
    | none => exact .idle
    | some p => exact .settle (fun _ none => absurd none (by simp)) .idle
  | cons push rest ih =>
    cases pending with
    | none => exact .receive (ih (some push))
    | some p =>
      rw [run_pending]
      by_cases quiet : Quiet delay p.1 (push :: rest)
      · rw [outcome_of_quiet quiet]
        exact .settle quiet (.receive (ih (some push)))
      · rw [outcome_of_not_quiet quiet]
        have early : ¬ p.1 + delay ≤ push.1 := mt quiet_cons.2 quiet
        exact .supersede (Nat.le_of_not_le early) (ih (some push))

/-- **Without ties the loop can go no other way.** -/
theorem eq_run_of_loop {pending : Option (Nat × α)}
    (untied : (pending.toList ++ pushes).IsChain fun p q => q.1 ≠ p.1 + delay)
    (loop : Loop delay pending pushes out) : out = run { delay, pending } pushes := by
  induction loop with
  | idle => rfl
  | receive _ ih => exact ih untied
  | @supersede pushed value push rest out early _ ih =>
    obtain ⟨untied, later⟩ := List.isChain_cons_cons.1 untied
    have superseded : ¬ Quiet delay pushed (push :: rest) := fun quiet =>
      untied (Nat.le_antisymm early (quiet_cons.1 quiet))
    rw [run_pending, outcome_of_not_quiet superseded]
    exact ih later
  | @settle pushed value rest out quiet _ ih =>
    rw [run_pending, outcome_of_quiet quiet, ih untied.of_cons]
    rfl

theorem loop_iff (untied : pushes.IsChain fun p q => q.1 ≠ p.1 + delay) :
    Loop delay none pushes out ↔ out = run { delay } pushes :=
  ⟨eq_run_of_loop untied, fun same => same ▸ loop_run none pushes⟩

/-! ## What comes to rest -/

/-- **A push comes to rest**: the next one, if there is one, comes more than the delay later. -/
def Rests (delay : Nat) (pushes : List (Nat × α)) (i : Fin pushes.length) : Prop :=
  ∀ next : i + 1 < pushes.length, pushes[i].1 + delay < pushes[i.1 + 1].1

instance (delay : Nat) (pushes : List (Nat × α)) (i : Fin pushes.length) :
    Decidable (Rests delay pushes i) :=
  inferInstanceAs (Decidable (∀ _ : i + 1 < pushes.length, _))

/-- **The values that settle**, in the order in which they were pushed, with their times. -/
def settled (delay : Nat) (pushes : List (Nat × α)) : List (Nat × α) :=
  ((List.finRange pushes.length).filter (Rests delay pushes ·)).map fun i =>
    (pushes[i].1 + delay, pushes[i].2)

theorem rests_succ (push : Nat × α) (rest : List (Nat × α)) (i : Fin rest.length) :
    Rests delay (push :: rest) i.succ ↔ Rests delay rest i := by
  simp [Rests]

/-- The first push comes to rest exactly if a pause follows, ties aside. -/
theorem rests_zero {push : Nat × α}
    (untied : (push :: rest).IsChain fun p q => q.1 ≠ p.1 + delay) :
    Rests delay (push :: rest) ⟨0, Nat.succ_pos _⟩ ↔ Quiet delay push.1 rest := by
  cases rest with
  | nil => simp [Rests, Quiet]
  | cons next rest =>
    have apart := (List.isChain_cons_cons.1 untied).1
    rw [quiet_cons]
    constructor
    · intro later
      exact Nat.le_of_lt (later (by simp))
    · intro later _
      exact Nat.lt_of_le_of_ne later (Ne.symm apart)

theorem settled_cons {push : Nat × α}
    (untied : (push :: rest).IsChain fun p q => q.1 ≠ p.1 + delay) :
    settled delay (push :: rest) = outcome delay push rest ++ settled delay rest := by
  have places : List.finRange (push :: rest).length
      = ⟨0, Nat.succ_pos _⟩ :: (List.finRange rest.length).map Fin.succ := List.finRange_succ
  have later : (((List.finRange rest.length).map Fin.succ).filter
      (Rests delay (push :: rest) ·)).map (fun i => ((push :: rest)[i].1 + delay,
        (push :: rest)[i].2)) = settled delay rest := by
    rw [List.filter_map, List.map_map, settled]
    congr 1
    refine List.filter_congr fun i _ => ?_
    simp only [Function.comp_apply, rests_succ]
  rw [settled, places, List.filter_cons]
  by_cases quiet : Quiet delay push.1 rest
  · rw [outcome_of_quiet quiet, if_pos (decide_eq_true ((rests_zero untied).2 quiet)),
      List.map_cons, later]
    rfl
  · rw [outcome_of_not_quiet quiet, if_neg fun rests =>
      quiet ((rests_zero untied).1 (of_decide_eq_true rests)), later]
    rfl

/-- **A debouncer gives what settles.** -/
theorem run_eq_settled (untied : pushes.IsChain fun p q => q.1 ≠ p.1 + delay) :
    run { delay } pushes = settled delay pushes := by
  induction pushes with
  | nil => rfl
  | cons push rest ih => rw [run_push, settled_cons untied, ih untied.of_cons]

/-- What settles are some of the values that were pushed, in their order. -/
theorem settled_sublist (delay : Nat) (pushes : List (Nat × α)) :
    (settled delay pushes).Sublist (pushes.map fun push => (push.1 + delay, push.2)) := by
  have all : pushes.map (fun push => (push.1 + delay, push.2))
      = (List.finRange pushes.length).map fun i => (pushes[i].1 + delay, pushes[i].2) := by
    conv_lhs => rw [← List.map_getElem_finRange pushes, List.map_map]
    rfl
  rw [all]
  exact List.filter_sublist.map _

/-- **A value that another follows within the delay does not come out**: nothing does at the time at
which it would. -/
theorem not_settled_of_burst (ascending : pushes.Pairwise (·.1 < ·.1)) {i : Nat}
    (next : i + 1 < pushes.length) (burst : pushes[i + 1].1 ≤ pushes[i].1 + delay) :
    ∀ settles ∈ settled delay pushes, settles.1 ≠ pushes[i].1 + delay := by
  intro settles mem due
  obtain ⟨j, settles', rfl⟩ := List.mem_map.1 mem
  have rests : Rests delay pushes j := of_decide_eq_true (List.mem_filter.1 settles').2
  have same : pushes[j].1 = pushes[i].1 := Nat.add_right_cancel due
  have earlier := List.pairwise_iff_getElem.1 ascending
  -- Times tell pushes apart, so what came out then is the value itself.
  rcases Nat.lt_trichotomy j i with before | rfl | after
  · exact absurd same (Nat.ne_of_lt (earlier j i j.2 (Nat.lt_of_succ_lt next) before))
  · exact Nat.not_lt_of_le burst (rests next)
  · exact absurd same (Nat.ne_of_gt (earlier i j (Nat.lt_of_succ_lt next) j.2 after))

/-! ## The last push, and what is not known yet -/

/-- **The last value settles.** -/
theorem getLast?_run (delay : Nat) (pushes : List (Nat × α)) :
    (run { delay } pushes).getLast? = pushes.getLast?.map fun push => (push.1 + delay, push.2) := by
  induction pushes with
  | nil => rfl
  | cons push rest ih =>
    rw [run_push, List.getLast?_append, ih]
    cases rest with
    | nil => rfl
    | cons next rest =>
      rw [List.getLast?_cons_cons, List.getLast?_eq_getLast_of_ne_nil (List.cons_ne_nil next rest)]
      rfl

/-- What settles was pushed the time of the delay before. -/
theorem of_mem_run {settles : Nat × α} (mem : settles ∈ run { delay } pushes) :
    ∃ push ∈ pushes, settles = (push.1 + delay, push.2) := by
  induction pushes with
  | nil => exact absurd mem List.not_mem_nil
  | cons push rest ih =>
    rw [run_push, List.mem_append] at mem
    rcases mem with first | later
    · exact ⟨push, List.mem_cons_self .., eq_of_mem_outcome first⟩
    · obtain ⟨other, pushed, same⟩ := ih later
      exact ⟨other, List.mem_cons_of_mem _ pushed, same⟩

/-- What comes up to some time. -/
def upTo (now : Nat) (timed : List (Nat × α)) : List (Nat × α) := timed.filter (·.1 ≤ now)

theorem upTo_cons_of_le {now : Nat} {push : Nat × α} (early : push.1 ≤ now) :
    upTo now (push :: rest) = push :: upTo now rest :=
  List.filter_cons_of_pos (decide_eq_true early)

theorem upTo_append (now : Nat) (timed timed' : List (Nat × α)) :
    upTo now (timed ++ timed') = upTo now timed ++ upTo now timed' := List.filter_append ..

theorem upTo_of_later {now : Nat} (later : ∀ push ∈ pushes, now < push.1) :
    upTo now pushes = [] :=
  List.filter_eq_nil_iff.2 fun push mem due =>
    Nat.not_le_of_lt (later push mem) (of_decide_eq_true due)

/-- Whether a pause is over by a time is up to what was pushed by then. -/
theorem quiet_upTo {pushed now : Nat} (due : pushed + delay ≤ now)
    (ascending : rest.Pairwise (·.1 < ·.1)) :
    Quiet delay pushed (upTo now rest) ↔ Quiet delay pushed rest := by
  cases rest with
  | nil => rfl
  | cons next rest =>
    by_cases early : next.1 ≤ now
    · rw [upTo_cons_of_le early, quiet_cons, quiet_cons]
    · have later : ∀ push ∈ next :: rest, now < push.1 := by
        refine List.forall_mem_cons.2 ⟨Nat.lt_of_not_le early, fun push mem => ?_⟩
        exact Nat.lt_trans (Nat.lt_of_not_le early) ((List.pairwise_cons.1 ascending).1 push mem)
      rw [upTo_of_later later, quiet_cons]
      exact iff_of_true (fun _ none => absurd none (by simp))
        (Nat.le_of_lt (Nat.lt_of_le_of_lt due (Nat.lt_of_not_le early)))

theorem upTo_outcome (push : Nat × α) (now : Nat) (ascending : rest.Pairwise (·.1 < ·.1)) :
    upTo now (outcome delay push (upTo now rest)) = upTo now (outcome delay push rest) := by
  by_cases due : push.1 + delay ≤ now
  · simp only [outcome, quiet_upTo due ascending]
  · have undue (rest : List (Nat × α)) : upTo now (outcome delay push rest) = [] :=
      upTo_of_later fun settles mem => by
        rw [eq_of_mem_outcome mem]
        exact Nat.lt_of_not_le due
    rw [undue, undue]

/-- **What has settled by a time is up to what was pushed by then.** -/
theorem upTo_run (delay now : Nat) (ascending : pushes.Pairwise (·.1 < ·.1)) :
    upTo now (run { delay } (upTo now pushes)) = upTo now (run { delay } pushes) := by
  induction pushes with
  | nil => rfl
  | cons push rest ih =>
    obtain ⟨first, ascending'⟩ := List.pairwise_cons.1 ascending
    by_cases early : push.1 ≤ now
    · rw [upTo_cons_of_le early, run_push, run_push, upTo_append, upTo_append, ih ascending',
        upTo_outcome push now ascending']
    · have later : ∀ other ∈ push :: rest, now < other.1 :=
        List.forall_mem_cons.2 ⟨Nat.lt_of_not_le early, fun other mem =>
          Nat.lt_trans (Nat.lt_of_not_le early) (first other mem)⟩
      have unsettled : ∀ settles ∈ run { delay } (push :: rest), now < settles.1 :=
        fun settles mem => by
          obtain ⟨other, pushed, rfl⟩ := of_mem_run mem
          exact Nat.lt_of_lt_of_le (later other pushed) (Nat.le_add_right _ _)
      rw [upTo_of_later later, upTo_of_later unsettled]
      rfl

/-! ## The main statement -/

/-- **A debouncer gives the values that a pause follows.**  Let values be pushed one after the
other, and none just when the one before it settles.  Then the loop has one way to go: it gives, in
their order and each once and as late as the delay is long, the values after which nothing is pushed
for longer than the delay.  These are some of the values pushed, with the last among them; one that
another follows within the delay does not come out, and what has come out by some time does not
depend on what is pushed later. -/
theorem settles_after_the_pause (delay : Nat) (pushes : List (Nat × α))
    (ascending : pushes.Pairwise (·.1 < ·.1))
    (untied : pushes.IsChain fun p q => q.1 ≠ p.1 + delay) :
    (∀ out, Loop delay none pushes out ↔ out = run { delay } pushes)
    ∧ run { delay } pushes = settled delay pushes
    ∧ (run { delay } pushes).Sublist (pushes.map fun push => (push.1 + delay, push.2))
    ∧ (run { delay } pushes).getLast?
      = pushes.getLast?.map (fun push => (push.1 + delay, push.2))
    ∧ (∀ (i : Nat) (next : i + 1 < pushes.length), pushes[i + 1].1 ≤ pushes[i].1 + delay →
        ∀ settles ∈ run { delay } pushes, settles.1 ≠ pushes[i].1 + delay)
    ∧ ∀ now pushes', pushes'.Pairwise (·.1 < ·.1) → upTo now pushes' = upTo now pushes →
        upTo now (run { delay } pushes') = upTo now (run { delay } pushes) := by
  have same := run_eq_settled untied
  refine ⟨fun out => loop_iff untied, same, same ▸ settled_sublist delay pushes,
    getLast?_run delay pushes, fun i next burst => ?_, fun now pushes' ascending' agree => ?_⟩
  · rw [same]
    exact not_settled_of_burst ascending next burst
  · rw [← upTo_run delay now ascending, ← upTo_run delay now ascending', agree]

/-- Two bursts and a value of its own. -/
def bursts : List (Nat × String) :=
  [(0, "r"), (1, "ru"), (100, "rust"), (401, "g"), (402, "go"), (800, "c")]

theorem settles_after_the_pause_of_bursts :
    bursts.Pairwise (·.1 < ·.1) ∧ bursts.IsChain (fun p q => q.1 ≠ p.1 + 300)
    ∧ run { delay := 300 } bursts = [(400, "rust"), (702, "go"), (1100, "c")] := by
  have ascending : bursts.Pairwise (·.1 < ·.1) := by decide
  have untied : bursts.IsChain fun p q => q.1 ≠ p.1 + 300 := by decide
  exact ⟨ascending, untied, (settles_after_the_pause 300 bursts ascending untied).2.1.trans rfl⟩

end Exposition.Browse.Debouncer
