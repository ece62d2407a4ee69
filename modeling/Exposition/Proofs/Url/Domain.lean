import Exposition.Url.Domain
import Exposition.Proofs.Each
import Exposition.Proofs.Url.Join
import Mathlib.Data.Bool.AllAny

/-!
# Proofs/Url/Domain — what no domain name holds

A name with a character that no domain name may hold is refused (`domainToAscii_of_forbidden`).
That needs a word on the labels in Punycode alone: such a label is compared with what its own text
is written as, and writing brings in letters, digits and hyphens only (`Punycode.mem_encode`).
-/

namespace Exposition.Url

open Text

/-! ## Characters that a label in Punycode holds -/

namespace Punycode

theorem threshold_le (k bias : Nat) : threshold k bias ≤ 26 := Nat.min_le_left ..

theorem isAlphanum_digit {d : Nat} (small : d < 36) : (digit d).isAlphanum := by
  revert d
  decide

theorem isAlphanum_of_mem_digits {bias k q : Nat} {c : Char} (mem : c ∈ digits bias k q) :
    c.isAlphanum := by
  fun_induction digits bias k q with
  | case1 k q t final =>
    have least : t ≤ 26 := threshold_le k bias
    rw [List.mem_singleton.1 mem]
    exact isAlphanum_digit (by omega)
  | case2 k q t more ih =>
    have least : t ≤ 26 := threshold_le k bias
    rcases List.mem_cons.1 mem with rfl | later
    · have small : (q - t) % (36 - t) < 36 - t := Nat.mod_lt _ (by omega)
      exact isAlphanum_digit (by omega)
    · exact ih later

/-- All insertions so far are written in letters and digits. -/
def State.IsPlain (s : State) : Prop := ∀ c ∈ s.written, c.isAlphanum

theorem isPlain_visit {s : State} (plain : s.IsPlain) (basic n : Nat) (c : Char) :
    (visit basic n s c).IsPlain := by
  unfold visit
  split
  · exact plain
  · split
    · intro d mem
      rcases List.mem_append.1 mem with before | new
      · exact plain d before
      · exact isAlphanum_of_mem_digits new
    · exact plain

theorem isPlain_foldl_visit {s : State} (plain : s.IsPlain) (basic n : Nat) (label : List Char) :
    (label.foldl (visit basic n) s).IsPlain := by
  induction label generalizing s with
  | nil => exact plain
  | cons c label ih => exact ih (isPlain_visit plain basic n c)

theorem isPlain_insertAll {label : List Char} {basic : Nat} {points : List Nat} {next : Nat}
    {s : State} (plain : s.IsPlain) : (insertAll label basic points next s).IsPlain := by
  induction points generalizing next s with
  | nil => exact plain
  | cons n points ih =>
    let s' : State := { s with delta := s.delta + (n - next) * (s.placed + 1) }
    have before : s'.IsPlain := plain
    have visited : (label.foldl (visit basic n) s').IsPlain :=
      isPlain_foldl_visit before basic n label
    exact ih visited

/-- **A label in ASCII** holds characters of the label, letters, digits and hyphens. -/
theorem mem_encode {label : List Char} {c : Char} (mem : c ∈ encode label) :
    c ∈ label ∨ isStepChar c := by
  have start : State.IsPlain ⟨0, 72, (label.filter (·.toNat < 0x80)).length, []⟩ :=
    fun c mem => absurd mem List.not_mem_nil
  simp only [encode, List.mem_append] at mem
  rcases mem with (basic | hyphen) | inserted
  · exact .inl (List.mem_of_mem_filter basic)
  · split at hyphen
    · exact absurd hyphen List.not_mem_nil
    · rw [List.mem_singleton.1 hyphen]
      exact .inr rfl
  · rw [isStepChar, isPlain_insertAll start c inserted]
    exact .inr rfl

end Punycode

/-! ## Names -/

theorem lt_of_isForbiddenInDomain {c : Char} (forbidden : isForbiddenInDomain c) :
    c.toNat < 0x80 := by
  simp only [isForbiddenInDomain, Bool.or_eq_true, decide_eq_true_eq, beq_iff_eq,
    List.contains_eq_mem] at forbidden
  rcases forbidden with (control | delete) | sign
  · omega
  · omega
  · have ascii : ∀ d ∈ [' ', '#', '/', ':', '<', '>', '?', '@', '[', '\\', ']', '^', '|', '%'],
        d.toNat < 0x80 := List.all_iff_forall_prop.1 (by decide)
    exact ascii c (by simpa using sign)

theorem not_isStepChar_of_forbidden {c : Char} (forbidden : isForbiddenInDomain c) :
    ¬ isStepChar c := by
  intro step
  have bounds := toNat_of_isStepChar step
  have outer : c ∉ [' ', '#', '/', ':', '<', '>', '?', '@', '[', '\\', ']', '^', '|', '%'] :=
    not_mem_of_isStepChar step (by decide)
  simp only [isForbiddenInDomain, Bool.or_eq_true, decide_eq_true_eq, beq_iff_eq,
    List.contains_eq_mem, outer, or_false] at forbidden
  omega

theorem not_isLabelChar_of_forbidden {c : Char} (forbidden : isForbiddenInDomain c) :
    isLabelChar c = false := by
  rw [isLabelChar, if_pos (lt_of_isForbiddenInDomain forbidden), forbidden]
  rfl

/-- A label in Punycode is what its text is written as, so it holds none either. -/
theorem not_isCanonicalLabel_of_forbidden {code : List Char} {c : Char} (mem : c ∈ code)
    (forbidden : isForbiddenInDomain c) : isCanonicalLabel code = false := by
  rw [Bool.eq_false_iff]
  intro canonical
  unfold isCanonicalLabel at canonical
  split at canonical
  · cases canonical
  · next label _ =>
    simp only [Bool.and_eq_true, beq_iff_eq, List.all_eq_true] at canonical
    obtain ⟨⟨⟨-, all⟩, -⟩, same⟩ := canonical
    rcases Punycode.mem_encode (same ▸ mem) with inLabel | step
    · exact absurd (all c inLabel) (by simp [not_isLabelChar_of_forbidden forbidden])
    · exact not_isStepChar_of_forbidden forbidden step

theorem labelToAscii_of_forbidden {label : List Char} {c : Char} (mem : c ∈ label)
    (forbidden : isForbiddenInDomain c) : labelToAscii label = none := by
  unfold labelToAscii
  split
  · split
    · next mark =>
      obtain ⟨code, rfl⟩ := List.isPrefixOf_iff_prefix.1 mark
      have inCode : c ∈ code := (List.mem_append.1 mem).resolve_left fun inMark =>
        not_isStepChar_of_forbidden forbidden
          (List.all_eq_true.1 (by decide : labelMark.all isStepChar) c inMark)
      change (if isCanonicalLabel code then _ else _) = none
      rw [not_isCanonicalLabel_of_forbidden inCode forbidden]
      rfl
    · rw [if_pos (List.any_eq_true.2 ⟨c, mem, forbidden⟩)]
  · have other : ¬ label.all isLabelChar := fun all => absurd (List.all_eq_true.1 all c mem)
      (by simp [not_isLabelChar_of_forbidden forbidden])
    rw [if_neg other]

/-- **A name with a forbidden character is refused.** -/
theorem domainToAscii_of_forbidden {name : List Char} {c : Char}
    (mem : c ∈ name.flatMap mapDomainChar) (forbidden : isForbiddenInDomain c) :
    domainToAscii name = none := by
  have noDot : (c == '.') = false := beq_false_of_ne <| by
    rintro rfl
    exact absurd forbidden (by decide)
  obtain ⟨label, there, inside⟩ := mem_splitEvery (p := (· == '.')) mem noDot
  rw [domainToAscii, Option.map_eq_none_iff, ← Option.not_isSome_iff_eq_none, isSome_mapM]
  intro each
  exact absurd (each label there) (by simp [labelToAscii_of_forbidden inside forbidden])

end Exposition.Url
