import Exposition.Url.Parser
import Exposition.Proofs.Text.Split
import Exposition.Proofs.Url.Percent

/-!
# Proofs/Url/Join — endpoints below a base

A relative path of **steps**, words of letters, digits and hyphens with slashes between them, takes
the place of the last segment of the base: nothing in it is dropped, encoded or resolved, and no
query or fragment of the base is left (`join_steps`).
-/

namespace Exposition.Url

open Text

/-- A character of a step. -/
def isStepChar (c : Char) : Bool := c.isAlphanum || c == '-'

/-- **A step of a relative path.** -/
def IsStep (step : List Char) : Prop := step ≠ [] ∧ ∀ c ∈ step, isStepChar c

theorem IsStep.of_all {step : List Char} (some : step ≠ []) (all : step.all isStepChar) :
    IsStep step := ⟨some, List.all_eq_true.1 all⟩

/-! ## Characters of steps -/

section StepChar

variable {c : Char}

theorem toNat_of_isStepChar (step : isStepChar c) : 0x20 < c.toNat ∧ c.toNat < 0x7F := by
  have kinds : (((c.isUpper || c.isLower) || c.isDigit) || c == '-') = true := step
  simp only [Bool.or_eq_true, beq_iff_eq] at kinds
  rcases kinds with ((upper | lower) | digit) | rfl
  · obtain ⟨low, high⟩ : 'A'.val ≤ c.val ∧ c.val ≤ 'Z'.val := of_decide_eq_true upper
    have low : 65 ≤ c.toNat := low
    have high : c.toNat ≤ 90 := high
    omega
  · obtain ⟨low, high⟩ := Bool.and_eq_true_iff.1 lower
    have low : 97 ≤ c.toNat := of_decide_eq_true low
    have high : c.toNat ≤ 122 := of_decide_eq_true high
    omega
  · obtain ⟨low, high⟩ := Bool.and_eq_true_iff.1 digit
    have low : 48 ≤ c.toNat := of_decide_eq_true low
    have high : c.toNat ≤ 57 := of_decide_eq_true high
    omega
  · decide

/-- A character of a step is none of the characters that are no such. -/
theorem not_mem_of_isStepChar (step : isStepChar c) {signs : List Char}
    (others : signs.any isStepChar = false) : c ∉ signs := fun mem =>
  List.any_eq_false.1 others c mem step

/-- A sign that belongs to no step is not one of its characters. -/
theorem ne_of_isStepChar (step : isStepChar c) {d : Char} (other : isStepChar d = false) :
    c ≠ d := by
  rintro rfl
  exact absurd step (by simp [other])

theorem not_isSlash_of_isStepChar (step : isStepChar c) (special : Bool) :
    isSlash special c = false := by
  rw [isSlash, beq_false_of_ne (ne_of_isStepChar step rfl),
    beq_false_of_ne (ne_of_isStepChar step rfl), Bool.and_false]
  rfl

theorem not_pathSet_of_isStepChar (step : isStepChar c) : pathSet c = false := by
  have bounds := toNat_of_isStepChar step
  have low : ¬ c.toNat < 0x20 := by omega
  have high : ¬ 0x7E < c.toNat := by omega
  have outer : c ∉ [' ', '"', '<', '>', '`'] := not_mem_of_isStepChar step (by decide)
  have inner : c ∉ ['#', '?', '\x7b', '\x7d'] := not_mem_of_isStepChar step (by decide)
  simp only [pathSet, fragmentSet, controlSet, decide_eq_false low, decide_eq_false high,
    List.contains_eq_mem, decide_eq_false outer, decide_eq_false inner, Bool.or_self]

end StepChar

/-! ## Texts without blanks -/

/-- A control or a space is no visible character. -/
theorem ne_of_isC0OrSpace {c : Char} (blank : isC0OrSpace c) {d : Char} (visible : 0x20 < d.toNat) :
    c ≠ d := by
  rintro rfl
  simp only [isC0OrSpace, decide_eq_true_eq] at blank
  omega

/-- A text that holds no control and no space is read as it stands. -/
theorem significant_of_graphic {cs : List Char} (graphic : ∀ c ∈ cs, 0x20 < c.toNat) :
    significant cs = cs := by
  have visible : ∀ c ∈ cs, isC0OrSpace c = false := fun c mem => by
    simpa [isC0OrSpace] using graphic c mem
  have kept : ∀ c ∈ cs, (!isTabOrBreak c) = true := fun c mem => by
    have big := graphic c mem
    have ne {d : Char} (small : d.toNat ≤ 0x20) : (c == d) = false := beq_false_of_ne <| by
      rintro rfl
      omega
    rw [isTabOrBreak, ne (by decide), ne (by decide), ne (by decide)]
    rfl
  have ending : cs.reverse.dropWhile isC0OrSpace = cs.reverse :=
    dropWhile_of_none fun c mem => visible c (List.mem_reverse.1 mem)
  rw [significant, dropWhile_of_none visible, ending, List.reverse_reverse,
    List.filter_eq_self.2 kept]

/-- A text without a colon has no scheme. -/
theorem splitScheme_of_no_colon {cs : List Char} (none : ':' ∉ cs) : splitScheme cs = .none := by
  cases cs with
  | nil => rfl
  | cons c rest =>
    rw [splitScheme]
    split
    · next more found =>
      have mem : ':' ∈ (c :: rest).dropWhile isSchemeChar := found ▸ List.mem_cons_self
      exact absurd ((List.dropWhile_sublist _).subset mem) none
    · rfl

/-- A text without the signs of a query and a fragment has neither. -/
theorem splitTail_of_plain {cs : List Char} (hash : '#' ∉ cs) (mark : '?' ∉ cs) :
    splitTail cs = ⟨cs, none, none⟩ := by
  have front : splitAtFirst (· == '#') cs = (cs, none) :=
    splitAtFirst_of_whole fun c mem => beq_false_of_ne fun same => hash (same ▸ mem)
  have head : splitAtFirst (· == '?') cs = (cs, none) :=
    splitAtFirst_of_whole fun c mem => beq_false_of_ne fun same => mark (same ▸ mem)
  rw [splitTail, front]
  simp only [head]

/-! ## Segments -/

/-- A segment that stands for another place holds a dot or a percent sign. -/
theorem mem_of_isDot {s : String} (dot : isSingleDot s ∨ isDoubleDot s) :
    '.' ∈ s.toList ∨ '%' ∈ s.toList := by
  simp only [isSingleDot, isDoubleDot, List.contains_eq_mem, List.mem_cons, List.not_mem_nil,
    or_false, decide_eq_true_eq] at dot
  rcases dot with (rfl | rfl | rfl) | rfl | rfl | rfl | rfl | rfl | rfl | rfl | rfl | rfl
  all_goals decide

/-- Segments that stand for themselves are put after the others. -/
theorem addSegments_of_plain {segments steps : List String}
    (plain : ∀ s ∈ steps, ¬ (isSingleDot s ∨ isDoubleDot s)) :
    addSegments segments steps = segments ++ steps := by
  induction steps generalizing segments with
  | nil => rw [addSegments, List.append_nil]
  | cons s steps ih =>
    obtain ⟨single, double⟩ := not_or.1 (plain s List.mem_cons_self)
    rw [addSegments, if_neg double, if_neg single,
      ih fun t mem => plain t (List.mem_cons_of_mem s mem), List.append_assoc,
      List.singleton_append]

theorem parseSegments_steps {special : Bool} {segments : List String} {steps : List (List Char)}
    (all : ∀ step ∈ steps, IsStep step) (some : steps ≠ []) :
    parseSegments special segments (List.intercalate ['/'] steps)
      = segments ++ steps.map String.ofList := by
  have encoded : steps.map (fun s => String.ofList (percentEncode pathSet s))
      = steps.map String.ofList := List.map_congr_left fun step mem =>
    congrArg String.ofList
      (percentEncode_of_plain fun c hc => not_pathSet_of_isStepChar ((all step mem).2 c hc))
  rw [parseSegments, splitEvery_intercalate rfl
    (fun step mem c hc => not_isSlash_of_isStepChar ((all step mem).2 c hc) special) some, encoded]
  refine addSegments_of_plain fun s mem dot => ?_
  obtain ⟨step, there, rfl⟩ := List.mem_map.1 mem
  have signs := mem_of_isDot dot
  rw [String.toList_ofList] at signs
  rcases signs with sign | sign
  · exact absurd ((all step there).2 _ sign) (by decide)
  · exact absurd ((all step there).2 _ sign) (by decide)

/-! ## Joining -/

/-- A text of steps that does not begin with a slash. -/
theorem intercalate_steps_eq {steps : List (List Char)} (all : ∀ step ∈ steps, IsStep step)
    (some : steps ≠ []) : ∃ c rest, List.intercalate ['/'] steps = c :: rest ∧ isStepChar c := by
  obtain ⟨step, others, rfl⟩ := List.exists_cons_of_ne_nil some
  obtain ⟨nonempty, chars⟩ := all step List.mem_cons_self
  obtain ⟨c, cs, rfl⟩ := List.exists_cons_of_ne_nil nonempty
  refine ⟨c, ?_⟩
  cases others with
  | nil => exact ⟨cs, by rw [List.intercalate_singleton], chars c List.mem_cons_self⟩
  | cons next others =>
    exact ⟨_, by rw [List.intercalate_cons_cons]; rfl, chars c List.mem_cons_self⟩

/-- **Steps take the place of the last segment of the base.** -/
theorem join_steps {base : Url} {segments : List String} (rooted : base.path = .segments segments)
    {steps : List (List Char)} (all : ∀ step ∈ steps, IsStep step) (some : steps ≠ []) :
    base.join (String.ofList (List.intercalate ['/'] steps)) = .ok
      { base with
        path := .segments (segments.dropLast ++ steps.map String.ofList)
        query := none
        fragment := none } := by
  set cs := List.intercalate ['/'] steps with def_cs
  have slashOrStep {c : Char} (mem : c ∈ cs) : c = '/' ∨ isStepChar c :=
    (mem_intercalate mem).imp_right fun ⟨step, there, mem⟩ => (all step there).2 c mem
  have other {d : Char} (noSlash : d ≠ '/') (noStep : isStepChar d = false) : d ∉ cs := fun mem =>
    (slashOrStep mem).elim noSlash fun step => absurd step (by simp [noStep])
  have graphic : ∀ c ∈ cs, 0x20 < c.toNat := fun c mem => by
    rcases slashOrStep mem with rfl | step
    · decide
    · exact (toNat_of_isStepChar step).1
  have tail : splitTail cs = ⟨cs, none, none⟩ :=
    splitTail_of_plain (other (by decide) rfl) (other (by decide) rfl)
  have path : base.withPath (base.path.list.dropLast) cs ⟨cs, none, none⟩
      = { base with
          path := .segments (segments.dropLast ++ steps.map String.ofList)
          query := none
          fragment := none } := by
    rw [withPath, rooted, Path.list, def_cs, parseSegments_steps all some]
    rfl
  obtain ⟨c, rest, cons, step⟩ := intercalate_steps_eq all some
  have noSlash := not_isSlash_of_isStepChar step (isSpecialScheme base.scheme)
  rw [join, String.toList_ofList, significant_of_graphic graphic,
    splitScheme_of_no_colon (other (by decide) rfl), rooted]
  change resolve base cs = _
  rw [resolve, tail]
  rw [← path, show cs = c :: rest from cons]
  cases rest with
  | nil => simp only [noSlash]; rfl
  | cons d rest => simp only [noSlash]; rfl

end Exposition.Url
