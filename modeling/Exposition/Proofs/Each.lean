import Mathlib.Data.List.Forall2

/-!
# Proofs/Each — results of parts

A computation in steps that may fail has a result only if every step has one.  A function that may
fail gives results for a whole list only if it does so for every item; they are the results of the
items, in their order.
-/

namespace Exposition

variable {α β ε : Type}

theorem isSome_bind_iff {o : Option α} {f : α → Option β} :
    (o.bind f).isSome ↔ ∃ a, o = some a ∧ (f a).isSome := by
  cases o with
  | none => simp
  | some a => simp

theorem exists_of_bind_eq_ok {x : Except ε α} {f : α → Except ε β} {b : β}
    (result : x >>= f = .ok b) : ∃ a, x = .ok a ∧ f a = .ok b := by
  cases x with
  | error e => cases result
  | ok a => exact ⟨a, rfl, result⟩

theorem exists_of_map_eq_ok {x : Except ε α} {f : α → β} {b : β} (result : x.map f = .ok b) :
    ∃ a, x = .ok a ∧ f a = b := by
  cases x with
  | error e => cases result
  | ok a => exact ⟨a, rfl, Except.ok.inj result⟩

theorem isSome_mapM {f : α → Option β} {as : List α} :
    (as.mapM f).isSome ↔ ∀ a ∈ as, (f a).isSome := by
  induction as with
  | nil => simp
  | cons a as ih =>
    rw [List.mapM_cons, List.forall_mem_cons, ← ih]
    simp [isSome_bind_iff, ← Option.isSome_iff_exists]

theorem exists_of_mapM {f : α → Option β} {as : List α} {bs : List β}
    (read : as.mapM f = some bs) {a : α} (mem : a ∈ as) : ∃ b ∈ bs, f a = some b := by
  induction as generalizing bs with
  | nil => exact absurd mem List.not_mem_nil
  | cons first as ih =>
    rw [List.mapM_cons] at read
    obtain ⟨b, readFirst, rest⟩ := Option.bind_eq_some_iff.1 read
    obtain ⟨bs', more, same⟩ := Option.bind_eq_some_iff.1 rest
    obtain rfl := Option.some.inj same
    rcases List.mem_cons.1 mem with rfl | later
    · exact ⟨b, List.mem_cons_self, readFirst⟩
    · obtain ⟨b', mem', readLater⟩ := ih more later
      exact ⟨b', List.mem_cons_of_mem _ mem', readLater⟩

theorem mapM_of_forall₂ {m : Type → Type} [Monad m] [LawfulMonad m] {f : α → m β} {as : List α}
    {bs : List β} (each : List.Forall₂ (fun a b => f a = pure b) as bs) :
    as.mapM f = pure bs := by
  induction each with
  | nil => rfl
  | cons first _ ih => rw [List.mapM_cons, first, ih, pure_bind, pure_bind]

/-- One item that gives an error is enough for the list to give one, and it is that of some item. -/
theorem mapM_error_of_mem {f : α → Except ε β} {as : List α} {a : α} {e : ε} (mem : a ∈ as)
    (failed : f a = .error e) : ∃ a' ∈ as, ∃ e', f a' = .error e' ∧ as.mapM f = .error e' := by
  induction as with
  | nil => exact absurd mem List.not_mem_nil
  | cons first as ih =>
    cases read : f first with
    | error e' =>
      refine ⟨first, List.mem_cons_self, e', read, ?_⟩
      rw [List.mapM_cons, read]
      rfl
    | ok b =>
      have later : a ∈ as := by
        rcases List.mem_cons.1 mem with rfl | later
        · exact absurd (failed.symm.trans read) (by simp)
        · exact later
      obtain ⟨a', mem', e', failed', rest⟩ := ih later
      refine ⟨a', List.mem_cons_of_mem _ mem', e', failed', ?_⟩
      rw [List.mapM_cons, read, rest]
      rfl

end Exposition
