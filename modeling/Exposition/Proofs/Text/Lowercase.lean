import Exposition.Proofs.Text.Trim
import Exposition.Text.Lowercase

/-!
# Proofs/Text/Lowercase — small letters stay as they are

What `lower` makes of a text is left alone by it (`lower_lower`), and a trimmed text stays trimmed
(`trim_lower`).  A word of small letters of ASCII is made of letters of ASCII alone, either small or
capital, unless it holds a `k`, which is the small letter of the Kelvin sign, too (`lower_eq_iff`).

The first two rest on the table of capitals: the small letters of its runs stand in none of its runs
(`lowerRuns_miss`), and not among the blanks (`lowerRuns_within`).
-/

namespace Exposition.Text

variable {c d : Char} {cs : List Char}

/-! ## Letters of ASCII -/

/-- A character is its own small letter, or it is a capital of ASCII. -/
theorem toLower_cases (c : Char) : c.toLower = c
    ∨ (65 ≤ c.toNat ∧ c.toNat ≤ 90 ∧ c.toLower.toNat = c.toNat + 32) := by
  by_cases capital : 'A'.val ≤ c.val ∧ c.val ≤ 'Z'.val
  · have low : 65 ≤ c.toNat := capital.1
    have high : c.val.toNat ≤ 90 := capital.2
    have small : c.toLower.val = c.val + 32 := congrArg Char.val (dif_pos capital)
    refine .inr ⟨low, high, ?_⟩
    change c.toLower.val.toNat = c.val.toNat + 32
    rw [small, UInt32.toNat_add]
    exact Nat.mod_eq_of_lt (Nat.lt_of_le_of_lt (Nat.add_le_add_right high 32) (by decide))
  · exact .inl (dif_neg capital)

theorem toLower_toLower (c : Char) : c.toLower.toLower = c.toLower := by
  rcases toLower_cases c with same | ⟨low, -, small⟩
  · rw [same, same]
  · rcases toLower_cases c.toLower with same | ⟨-, high, -⟩
    · exact same
    · omega

theorem ascii_toLower_iff : c.toLower.toNat < 0x80 ↔ c.toNat < 0x80 := by
  rcases toLower_cases c with same | ⟨-, high, small⟩
  · rw [same]
  · omega

/-- What is printed of ASCII is visible, but for the blank. -/
theorem visible_of_printed (low : 0x20 < c.toNat) (high : c.toNat < 0x7F) : isBlank c = false := by
  rw [isBlank]
  simp only [Bool.or_eq_false_iff, Bool.and_eq_false_iff, decide_eq_false_iff_not,
    beq_eq_false_iff_ne]
  omega

theorem visible_of_digit (digit : c.isDigit) : isBlank c = false := by
  obtain ⟨low, high⟩ := Bool.and_eq_true_iff.1 digit
  have low : 48 ≤ c.toNat := of_decide_eq_true low
  have high : c.toNat ≤ 57 := of_decide_eq_true high
  exact visible_of_printed (by omega) (by omega)

theorem isBlank_toLower (c : Char) : isBlank c.toLower = isBlank c := by
  rcases toLower_cases c with same | ⟨low, high, small⟩
  · rw [same]
  · rw [visible_of_printed (by omega) (by omega), visible_of_printed (by omega) (by omega)]

/-- What has a small letter of ASCII is a letter of ASCII, and no blank. -/
theorem letter_of_toLower (letter : c.toLower.isLower) :
    c.toNat < 0x80 ∧ isBlank c = false := by
  obtain ⟨low, high⟩ := Bool.and_eq_true_iff.1 letter
  have low : 97 ≤ c.toLower.toNat := of_decide_eq_true low
  have high : c.toLower.toNat ≤ 122 := of_decide_eq_true high
  exact ⟨ascii_toLower_iff.1 (by omega),
    isBlank_toLower c ▸ visible_of_printed (by omega) (by omega)⟩

/-- A text of ASCII has the small letters of ASCII. -/
theorem lower_of_ascii (ascii : ∀ c ∈ cs, c.toNat < 0x80) : lower cs = cs.map Char.toLower := by
  have after (before : List Char) : lowerAfter before cs = cs.map Char.toLower := by
    induction cs generalizing before with
    | nil => rfl
    | cons c cs ih =>
      rw [lowerAfter, lowerChar, if_pos (ascii c List.mem_cons_self),
        ih fun d mem => ascii d (List.mem_cons_of_mem _ mem)]
      rfl
  exact after []

/-! ## The runs of capitals -/

namespace CaseRun

/-- The small letter of the first capital. -/
def smallFirst (r : CaseRun) : Nat := (r.first + r.shift).toNat

/-- The small letter of the last capital. -/
def smallLast (r : CaseRun) : Nat := (r.last + r.shift).toNat

/-- The small letters of a run lie before the capitals of the other or behind them, or they take
turns with these. -/
def misses (r r' : CaseRun) : Bool :=
  -- With `Nat.blt`, trying all pairs of runs takes half the time that `<` takes.
  Nat.blt r.smallLast r'.first || Nat.blt r'.last r.smallFirst ||
    (r'.stride == 2 && (r.stride == 2 || r.first == r.last) && (r.smallFirst + r'.first) % 2 == 1)

/-- The small letters of a run lie within some bounds. -/
def within (r : CaseRun) (bounds : Nat × Nat) : Bool :=
  Nat.ble bounds.1 r.smallFirst && Nat.ble r.smallLast bounds.2

theorem not_contains_of_misses {r r' : CaseRun} (apart : r.misses r') (positive : 0 < r.smallFirst)
    {n : Nat} (there : r.contains n) : r'.contains (n + r.shift).toNat = false := by
  obtain ⟨first, last, stride, shift⟩ := r
  obtain ⟨first', last', stride', shift'⟩ := r'
  simp only [misses, smallFirst, smallLast, contains, Bool.or_eq_true, Bool.and_eq_true,
    decide_eq_true_eq, beq_iff_eq, Nat.blt_eq, ← Bool.not_eq_true] at *
  rintro ⟨⟨low', high'⟩, even'⟩
  obtain ⟨⟨low, high⟩, even⟩ := there
  rcases apart with (before | behind) | ⟨⟨rfl, rfl | rfl⟩, turns⟩
  · omega
  · omega
  · omega
  · omega

end CaseRun

/-- **No small letter of a run is a capital.** -/
theorem lowerRuns_miss : lowerRuns.all fun r => lowerRuns.all r.misses := by decide +kernel

/-- Where the small letters of the runs lie: a `k`, which is that of the Kelvin sign, and between
ASCII, the blanks and the two capitals with rules of their own. -/
def smallBounds : List (Nat × Nat) :=
  [(0x6B, 0x6B), (0xA1, 0x12F), (0x131, 0x3A2), (0x3A4, 0x167F), (0x1681, 0x1FFF),
    (0x2060, 0x2FFF), (0x3001, 0xD7FF), (0xE000, 0x10FFFF)]

theorem lowerRuns_within : lowerRuns.all fun r => smallBounds.any r.within := by decide +kernel

/-- A code point lies where the small letters of the runs do. -/
def InSmallBounds (n : Nat) : Prop := ∃ bounds ∈ smallBounds, bounds.1 ≤ n ∧ n ≤ bounds.2

theorem inSmallBounds_iff {n : Nat} : InSmallBounds n ↔ n = 0x6B
    ∨ (0xA1 ≤ n ∧ n < 0x130 ∨ 0x130 < n ∧ n < 0x3A3 ∨ 0x3A3 < n ∧ n < 0x1680)
    ∨ (0x1680 < n ∧ n < 0x2000 ∨ 0x205F < n ∧ n < 0x3000 ∨ 0x3000 < n ∧ n < 0xD800)
    ∨ 0xDFFF < n ∧ n < 0x110000 := by
  simp only [InSmallBounds, smallBounds, List.exists_mem_cons_iff, List.not_mem_nil, false_and,
    exists_false, or_false]
  omega

theorem toNat_ofNat_of_valid {n : Nat} (valid : n.isValidChar) : (Char.ofNat n).toNat = n := by
  rw [Char.ofNat, dif_pos valid]
  rfl

/-- **A small letter of a run.** -/
structure OfRun (c : Char) : Prop where
  uncapital : lowerRuns.find? (·.contains c.toNat) = none
  bounds : InSmallBounds c.toNat

namespace OfRun

theorem of_contains {r : CaseRun} (mem : r ∈ lowerRuns) {n : Nat} (there : r.contains n) :
    OfRun (Char.ofNat (n + r.shift).toNat) := by
  obtain ⟨bounds, listed, within⟩ := List.any_eq_true.1 (List.all_eq_true.1 lowerRuns_within r mem)
  have within : bounds.1 ≤ r.smallFirst ∧ r.smallLast ≤ bounds.2 := by
    simpa [CaseRun.within] using within
  have stands : r.smallFirst ≤ (n + r.shift).toNat ∧ (n + r.shift).toNat ≤ r.smallLast := by
    simp only [CaseRun.contains, Bool.and_eq_true, decide_eq_true_eq] at there
    simp only [CaseRun.smallFirst, CaseRun.smallLast]
    omega
  have first : InSmallBounds r.smallFirst := ⟨bounds, listed, by omega, by omega⟩
  have inside : InSmallBounds (n + r.shift).toNat := ⟨bounds, listed, by omega, by omega⟩
  have positive : 0 < r.smallFirst := by
    rw [inSmallBounds_iff] at first
    omega
  have number : (Char.ofNat (n + r.shift).toNat).toNat = (n + r.shift).toNat := by
    refine toNat_ofNat_of_valid ?_
    rw [inSmallBounds_iff] at inside
    rw [Nat.isValidChar]
    omega
  refine ⟨?_, by rwa [number]⟩
  rw [number, List.find?_eq_none]
  intro r' mem'
  have apart : r.misses r' :=
    List.all_eq_true.1 (List.all_eq_true.1 lowerRuns_miss r mem) r' mem'
  simp [CaseRun.not_contains_of_misses apart positive there]

theorem visible (small : OfRun c) : isBlank c = false := by
  have bounds := inSmallBounds_iff.1 small.bounds
  rw [isBlank]
  simp only [Bool.or_eq_false_iff, Bool.and_eq_false_iff, decide_eq_false_iff_not,
    beq_eq_false_iff_ne]
  omega

/-- The small letter of a run is beyond ASCII, unless it is that of the Kelvin sign. -/
theorem beyond (small : OfRun c) : c = 'k' ∨ 0x80 ≤ c.toNat ∧ c ≠ 'Σ' ∧ c ≠ 'İ' := by
  have bounds := inSmallBounds_iff.1 small.bounds
  have other : c.toNat = 0x6B ∨ 0x80 ≤ c.toNat ∧ c.toNat ≠ 0x3A3 ∧ c.toNat ≠ 0x130 := by omega
  refine other.imp Char.toNat_inj.1 ?_
  rintro ⟨high, sigma, dotted⟩
  exact ⟨high, ne_of_apply_ne Char.toNat sigma, ne_of_apply_ne Char.toNat dotted⟩

end OfRun

/-- A character beyond ASCII is its own small letter, or a run gives it. -/
theorem lowerSimple_cases (c : Char) :
    (lowerRuns.find? (·.contains c.toNat) = none ∧ lowerSimple c = c) ∨ OfRun (lowerSimple c) := by
  rw [lowerSimple]
  cases found : lowerRuns.find? (·.contains c.toNat) with
  | none => exact .inl ⟨rfl, rfl⟩
  | some r =>
    have there : r.contains c.toNat := by simpa using List.find?_some found
    exact .inr (.of_contains (List.mem_of_find?_eq_some found) there)

/-! ## Small characters -/

/-- **A small character** is left alone, whatever stands around it. -/
def IsSmall (c : Char) : Prop := ∀ before after, lowerChar before after c = [c]

theorem isSmall_of_uncapital (beyond : 0x80 ≤ c.toNat) (sigma : c ≠ 'Σ') (dotted : c ≠ 'İ')
    (uncapital : lowerRuns.find? (·.contains c.toNat) = none) : IsSmall c := by
  intro before after
  rw [lowerChar, if_neg (Nat.not_lt.2 beyond), if_neg sigma, if_neg dotted, lowerSimple, uncapital]

theorem isSmall_toLower (ascii : c.toNat < 0x80) : IsSmall c.toLower := by
  intro before after
  rw [lowerChar, if_pos (ascii_toLower_iff.2 ascii), toLower_toLower]

theorem OfRun.isSmall (small : OfRun c) : IsSmall c := by
  rcases small.beyond with rfl | ⟨beyond, sigma, dotted⟩
  · exact isSmall_toLower (c := 'k') (by decide)
  · exact isSmall_of_uncapital beyond sigma dotted small.uncapital

/-! ## Small forms -/

/-- **A small form of a character**: small characters, visible ones if it is visible, and characters
of ASCII other than `k` only if it is in ASCII. -/
structure SmallForm (c : Char) (ds : List Char) : Prop where
  filled : ds ≠ []
  small : ∀ d ∈ ds, IsSmall d
  visible : isBlank c = false → ∀ d ∈ ds, isBlank d = false
  plain : (∀ d ∈ ds, d.toNat < 0x80 ∧ d ≠ 'k') → c.toNat < 0x80

namespace SmallForm

theorem single (small : IsSmall d) (visible : isBlank c = false → isBlank d = false)
    (plain : d.toNat < 0x80 → d ≠ 'k' → c.toNat < 0x80) : SmallForm c [d] where
  filled := List.cons_ne_nil d []
  small := List.forall_mem_singleton.2 small
  visible shown := List.forall_mem_singleton.2 (visible shown)
  plain all := plain (all d List.mem_cons_self).1 (all d List.mem_cons_self).2

/-- The small sigmas, the final one and the other. -/
theorem sigma (listed : d ∈ ['ς', 'σ']) : SmallForm 'Σ' [d] := by
  have beyond : 0x80 ≤ d.toNat ∧ d ≠ 'Σ' ∧ d ≠ 'İ' ∧ isBlank d = false
      ∧ lowerRuns.find? (·.contains d.toNat) = none := by
    rcases List.mem_cons.1 listed with rfl | listed
    · decide
    · obtain rfl := List.mem_singleton.1 listed
      decide
  obtain ⟨beyond, sigma, dotted, visible, uncapital⟩ := beyond
  refine single (isSmall_of_uncapital beyond sigma dotted uncapital) (fun _ => visible) ?_
  intro ascii
  exact absurd ascii (Nat.not_lt.2 beyond)

/-- The dotted capital I becomes two characters, and one of them is beyond ASCII. -/
theorem dotted : SmallForm 'İ' ['i', '\u0307'] where
  filled := List.cons_ne_nil _ _
  small := by
    have dot : IsSmall '\u0307' :=
      isSmall_of_uncapital (by decide) (by decide) (by decide) (by decide)
    exact List.forall_mem_cons.2
      ⟨isSmall_toLower (c := 'i') (by decide), List.forall_mem_singleton.2 dot⟩
  visible _ := List.forall_mem_cons.2 ⟨by decide, List.forall_mem_singleton.2 (by decide)⟩
  plain all := absurd (all '\u0307' (by simp)).1 (by decide)

theorem of_lowerSimple (beyond : 0x80 ≤ c.toNat) (sigma : c ≠ 'Σ') (dotted : c ≠ 'İ') :
    SmallForm c [lowerSimple c] := by
  rcases lowerSimple_cases c with ⟨uncapital, same⟩ | small
  · rw [same]
    exact single (isSmall_of_uncapital beyond sigma dotted uncapital) id fun ascii _ => ascii
  · refine single small.isSmall (fun _ => small.visible) ?_
    intro ascii other
    rcases small.beyond with letter | ⟨high, -, -⟩
    · exact absurd letter other
    · exact absurd ascii (Nat.not_lt.2 high)

/-- **What `lower` makes of a character** is a small form of it. -/
theorem of_lowerChar (before after : List Char) (c : Char) :
    SmallForm c (lowerChar before after c) := by
  rw [lowerChar]
  split
  · next ascii => exact single (isSmall_toLower ascii) (isBlank_toLower c ▸ id) fun _ _ => ascii
  · next beyond =>
    split
    · next sigma =>
      subst sigma
      split
      · exact .sigma List.mem_cons_self
      · exact .sigma (List.mem_cons_of_mem _ List.mem_cons_self)
    · next other =>
      split
      · next dotted =>
        subst dotted
        exact .dotted
      · next other' => exact .of_lowerSimple (Nat.not_lt.1 beyond) other other'

end SmallForm

/-! ## Texts -/

theorem mem_lowerAfter {before : List Char} (mem : d ∈ lowerAfter before cs) :
    ∃ c ∈ cs, ∃ front back, d ∈ lowerChar front back c := by
  induction cs generalizing before with
  | nil => exact absurd mem List.not_mem_nil
  | cons c cs ih =>
    rcases List.mem_append.1 mem with here | later
    · exact ⟨c, List.mem_cons_self, before, cs, here⟩
    · obtain ⟨c', there, found⟩ := ih later
      exact ⟨c', List.mem_cons_of_mem c there, found⟩

theorem subset_lowerAfter (mem : c ∈ cs) (before : List Char) :
    ∃ front back, lowerChar front back c ⊆ lowerAfter before cs := by
  induction cs generalizing before with
  | nil => exact absurd mem List.not_mem_nil
  | cons d cs ih =>
    rcases List.mem_cons.1 mem with rfl | later
    · exact ⟨before, cs, List.subset_append_left _ _⟩
    · obtain ⟨front, back, subset⟩ := ih later (d :: before)
      exact ⟨front, back, List.Subset.trans subset (List.subset_append_right _ _)⟩

/-- The small form of a text ends in that of its last character. -/
theorem lowerAfter_concat (before cs : List Char) (c : Char) :
    ∃ front init, lowerAfter before (cs ++ [c]) = init ++ lowerChar front [] c := by
  induction cs generalizing before with
  | nil => exact ⟨before, [], List.append_nil _⟩
  | cons d cs ih =>
    obtain ⟨front, init, ends⟩ := ih (d :: before)
    refine ⟨front, lowerChar before (cs ++ [c]) d ++ init, ?_⟩
    rw [List.cons_append, lowerAfter, ends, List.append_assoc]

theorem lowerAfter_of_small (small : ∀ c ∈ cs, IsSmall c) (before : List Char) :
    lowerAfter before cs = cs := by
  induction cs generalizing before with
  | nil => rfl
  | cons c cs ih =>
    rw [lowerAfter, small c List.mem_cons_self,
      ih fun d mem => small d (List.mem_cons_of_mem c mem)]
    rfl

/-- **Making a text small twice** comes to making it small once. -/
theorem lower_lower (cs : List Char) : lower (lower cs) = lower cs := by
  refine lowerAfter_of_small ?_ []
  intro d mem
  obtain ⟨c, -, front, back, found⟩ := mem_lowerAfter mem
  exact (SmallForm.of_lowerChar front back c).small d found

/-- **A word of ASCII without a `k`** is the small form of words of ASCII alone. -/
theorem lower_eq_iff {word : List Char} (plain : ∀ d ∈ word, d.toNat < 0x80 ∧ d ≠ 'k') :
    lower cs = word ↔ cs.map Char.toLower = word := by
  constructor
  · rintro rfl
    have ascii : ∀ c ∈ cs, c.toNat < 0x80 := by
      intro c mem
      obtain ⟨front, back, subset⟩ := subset_lowerAfter mem []
      exact (SmallForm.of_lowerChar front back c).plain fun d there => plain d (subset there)
    exact (lower_of_ascii ascii).symm
  · rintro rfl
    refine lower_of_ascii ?_
    intro c mem
    exact ascii_toLower_iff.1 (plain _ (List.mem_map_of_mem mem)).1

/-- **A trimmed text stays trimmed.** -/
theorem trim_lower (trimmed : trim cs = cs) : trim (lower cs) = lower cs := by
  refine trim_of_visible ?_ ?_
  · cases cs with
    | nil => simp [lower, lowerAfter]
    | cons c cs =>
      have form := SmallForm.of_lowerChar [] cs c
      have visible := visible_head?_trim (c :: cs) c (by rw [trimmed]; rfl)
      intro d first
      rw [lower, lowerAfter, List.head?_append_of_ne_nil _ form.filled] at first
      exact form.visible visible d (List.mem_of_head? first)
  · rcases List.eq_nil_or_concat' cs with rfl | ⟨cs, c, rfl⟩
    · simp [lower, lowerAfter]
    · obtain ⟨front, init, ends⟩ := lowerAfter_concat [] cs c
      have form := SmallForm.of_lowerChar front [] c
      have visible := visible_getLast?_trim (cs ++ [c]) c (by rw [trimmed]; simp)
      intro d last
      rw [lower, ends, List.getLast?_append_of_ne_nil _ form.filled] at last
      exact form.visible visible d (List.mem_of_getLast? last)

end Exposition.Text
