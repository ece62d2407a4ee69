import Exposition.Proofs.Url.Join
import Mathlib.Data.List.DropRight

/-!
# Proofs/Url/Path — slashes at the end of a path

The **stem** of a path is its text without the slashes at its end.  Slashes that are added to a text
before it is read as a path leave the stem as it is (`stem_parseHostPath`), even where its last
segment is a dot segment; other characters before them do not (`parseHostPath_longer`).
-/

namespace Exposition.Url

open Text

namespace Path

/-! ## Stems -/

/-- **The text of a path without the slashes at its end.** -/
def stem (p : Path) : String := String.ofList (p.text.toList.rdropWhile (· == '/'))

/-- There is one slash at the end of the path, and no more. -/
def EndsInOneSlash (p : Path) : Prop := p.text = p.stem ++ "/"

variable {segments : List String} {s : String}

theorem text_concat (segments : List String) (s : String) :
    (Path.segments (segments ++ [s])).text = (Path.segments segments).text ++ "/" ++ s := by
  simp only [text, List.map_append, String.join_append, List.map_singleton, String.append_assoc]
  congr 1

theorem text_append (segments more : List String) :
    (Path.segments (segments ++ more)).text
      = (Path.segments segments).text ++ (Path.segments more).text := by
  simp only [text, List.map_append, String.join_append]

/-- Every segment has a slash before it. -/
theorem toList_text (some : segments ≠ []) : (Path.segments segments).text.toList
    = '/' :: List.intercalate ['/'] (segments.map String.toList) := by
  induction segments with
  | nil => exact absurd rfl some
  | cons s segments ih =>
    have first : (Path.segments (s :: segments)).text
        = "/" ++ s ++ (Path.segments segments).text := by
      rw [text, List.map_cons, String.join_cons, text]
    have slash : ("/" ++ s).toList = '/' :: s.toList := String.toList_append
    rw [first, String.toList_append, slash, List.map_cons, List.cons_append]
    rcases eq_or_ne segments [] with rfl | more
    · have none : (Path.segments []).text.toList = [] := rfl
      rw [none, List.append_nil, List.map_nil, List.intercalate_singleton]
    · rw [ih more]
      obtain ⟨next, rest, rfl⟩ := List.exists_cons_of_ne_nil more
      rw [List.map_cons, List.intercalate_cons_cons, List.append_assoc]
      rfl

theorem length_dropLast_le (segments : List String) :
    (Path.segments segments.dropLast).text.length ≤ (Path.segments segments).text.length := by
  rcases List.eq_nil_or_concat segments with rfl | ⟨before, last, rfl⟩
  · exact Nat.le_refl _
  · rw [List.concat_eq_append, List.dropLast_concat, text_concat, String.append_assoc,
      String.length_append]
    exact Nat.le_add_right _ _

theorem length_stem_le (p : Path) : p.stem.length ≤ p.text.length := by
  rw [stem, String.length_ofList, ← String.length_toList]
  exact (List.rdropWhile_prefix (· == '/') _).length_le

/-- An empty segment is a slash at the end. -/
theorem stem_concat_empty (segments : List String) :
    (Path.segments (segments ++ [""])).stem = (Path.segments segments).stem := by
  rw [stem, text_concat, String.append_empty, String.toList_append, stem]
  exact congrArg String.ofList (List.rdropWhile_concat_pos (p := (· == '/')) _ _ rfl)

/-- Any other segment ends the stem. -/
theorem stem_concat (some : s ≠ "") (noSlash : '/' ∉ s.toList) :
    (Path.segments (segments ++ [s])).stem = (Path.segments (segments ++ [s])).text := by
  have nonempty : s.toList ≠ [] := by simpa using some
  have whole : ((Path.segments (segments ++ [s])).text.toList).rdropWhile (· == '/')
      = (Path.segments (segments ++ [s])).text.toList := by
    rw [List.rdropWhile_eq_self_iff, text_concat, String.toList_append]
    intro _ slash
    rw [List.getLast_append_of_ne_nil _ nonempty, beq_iff_eq] at slash
    exact noSlash (slash ▸ List.getLast_mem nonempty)
  rw [stem, whole, String.ofList_toList]

/-- A path ends in one slash if the slash is all that its last segment adds to the stem. -/
theorem endsInOneSlash_iff (noSlash : '/' ∉ s.toList) :
    (Path.segments (segments ++ [s])).EndsInOneSlash
      ↔ (Path.segments segments).text = (Path.segments (segments ++ [s])).stem := by
  rw [EndsInOneSlash]
  by_cases empty : s = ""
  · subst empty
    rw [text_concat, String.append_empty, String.append_left_inj]
  · rw [stem_concat empty noSlash]
    have longer : (Path.segments segments).text.length
        < (Path.segments (segments ++ [s])).text.length := by
      rw [text_concat, String.length_append, String.length_append]
      exact Nat.lt_add_right _ (Nat.lt_succ_self _)
    refine iff_of_false (fun same => ?_) fun same => ?_
    · have lengths := congrArg String.length same
      rw [String.length_append] at lengths
      exact absurd lengths (Nat.ne_of_lt (Nat.lt_succ_self _))
    · exact absurd (congrArg String.length same) (Nat.ne_of_lt longer)

end Path

/-! ## Segments with a slash after the last of them -/

section Segments

variable {segments steps : List String} {s t : String}

/-- The segments after one more that a slash follows. -/
def enter (segments : List String) (s : String) : List String :=
  if isDoubleDot s then segments.dropLast
  else if isSingleDot s then segments
  else segments ++ [s]

theorem mem_enter (mem : t ∈ enter segments s) : t ∈ segments ∨ t = s := by
  unfold enter at mem
  split_ifs at mem
  · exact .inl ((List.dropLast_sublist _).subset mem)
  · exact .inl mem
  · exact (List.mem_append.1 mem).imp_right List.mem_singleton.1

theorem addSegments_cons (some : steps ≠ []) :
    addSegments segments (s :: steps) = addSegments (enter segments s) steps := by
  have more : steps.isEmpty = false := by simpa using some
  rw [addSegments, more]
  simp only [Bool.false_eq_true, if_false, List.append_nil]
  rfl

theorem addSegments_singleton : addSegments segments [s]
    = if isDoubleDot s then segments.dropLast ++ [""]
      else if isSingleDot s then segments ++ [""]
      else segments ++ [s] := rfl

theorem addSegments_ne_nil (some : steps ≠ []) : addSegments segments steps ≠ [] := by
  induction steps generalizing segments with
  | nil => exact absurd rfl some
  | cons s steps ih =>
    rcases eq_or_ne steps [] with rfl | more
    · rw [addSegments_singleton]
      split_ifs
      · simp
      · simp
      · simp
    · rw [addSegments_cons more]
      exact ih more

theorem mem_addSegments (mem : t ∈ addSegments segments steps) :
    t ∈ segments ∨ t ∈ steps ∨ t = "" := by
  induction steps generalizing segments with
  | nil => exact .inl mem
  | cons s steps ih =>
    rcases eq_or_ne steps [] with rfl | more
    · rw [addSegments_singleton] at mem
      split_ifs at mem
      · rcases List.mem_append.1 mem with before | last
        · exact .inl ((List.dropLast_sublist _).subset before)
        · exact .inr (.inr (List.mem_singleton.1 last))
      · exact (List.mem_append.1 mem).imp_right fun last => .inr (List.mem_singleton.1 last)
      · exact (List.mem_append.1 mem).imp_right .inl
    · rw [addSegments_cons more] at mem
      rcases ih mem with before | later | empty
      · exact (mem_enter before).imp_right fun same => .inl (List.mem_cons.2 (.inl same))
      · exact .inr (.inl (List.mem_cons_of_mem s later))
      · exact .inr (.inr empty)

/-- **A slash after the last segment does not change the stem.** -/
theorem stem_addSegments_concat (some : steps ≠ []) :
    (Path.segments (addSegments segments (steps ++ [""]))).stem
      = (Path.segments (addSegments segments steps)).stem := by
  induction steps generalizing segments with
  | nil => exact absurd rfl some
  | cons s steps ih =>
    rcases eq_or_ne steps [] with rfl | more
    · have empty : addSegments (enter segments s) [""] = enter segments s ++ [""] := rfl
      rw [List.singleton_append, addSegments_cons (List.cons_ne_nil _ _), empty, enter,
        addSegments_singleton]
      split_ifs
      · rfl
      · rfl
      · exact Path.stem_concat_empty _
    · rw [List.cons_append, addSegments_cons (by simp), addSegments_cons more]
      exact ih more

/-- A longer segment that is no dot segment makes a longer path. -/
theorem addSegments_longer (segments steps : List String) (single : ¬ isSingleDot t)
    (double : ¬ isDoubleDot t) (longer : s.length < t.length) : ∃ before,
    addSegments segments (steps ++ [t, ""]) = before ++ [t, ""] ∧
      (Path.segments (addSegments segments (steps ++ [s]))).text.length
        < (Path.segments (before ++ [t])).text.length := by
  induction steps generalizing segments with
  | nil =>
    refine ⟨segments, ?_, ?_⟩
    · rw [List.nil_append, addSegments_cons (List.cons_ne_nil _ _), enter, if_neg double,
        if_neg single]
      exact (List.append_assoc segments [t] [""])
    · rw [List.nil_append, addSegments_singleton]
      have shorter := Path.length_dropLast_le segments
      split_ifs
      · simp only [Path.text_concat, String.length_append, String.length_empty]
        omega
      · simp only [Path.text_concat, String.length_append, String.length_empty]
        omega
      · simp only [Path.text_concat, String.length_append]
        omega
  | cons r steps ih =>
    rw [List.cons_append, List.cons_append, addSegments_cons (by simp), addSegments_cons (by simp)]
    exact ih _

end Segments

/-! ## Paths from a text -/

/-- No dot segment ends in an encoded control or space. -/
theorem not_isDot_of_percentByte {cs : List Char} {b : UInt8} (blank : b.toNat ≤ 0x20) {s : String}
    (ending : s.toList = cs ++ percentByte b) : ¬ isSingleDot s ∧ ¬ isDoubleDot s := by
  have visible : ∀ d ∈ [".", "%2e", "%2E", "..", "%2e%2e", "%2e%2E", "%2E%2e", "%2E%2E", "%2e.",
      "%2E.", ".%2e", ".%2E"], ∀ n ≤ 0x20, ¬ percentByte (UInt8.ofNat n) <:+ d.toList := by decide
  have there : percentByte (UInt8.ofNat b.toNat) <:+ s.toList := by
    rw [UInt8.ofNat_toNat]
    exact ⟨cs, ending.symm⟩
  constructor
  · intro dot
    rw [isSingleDot, List.contains_iff_mem] at dot
    exact visible s (List.mem_append_left _ dot) _ blank there
  · intro dot
    rw [isDoubleDot, List.contains_iff_mem] at dot
    exact visible s (List.mem_append_right [".", "%2e", "%2E"] dot) _ blank there

section Text

variable {special : Bool} {cs : List Char}

theorem noSlash_of_mem_parseSegments {s : String} (mem : s ∈ parseSegments special [] cs) :
    '/' ∉ s.toList := by
  rcases mem_addSegments mem with none | piece | rfl
  · exact absurd none List.not_mem_nil
  · obtain ⟨piece, there, rfl⟩ := List.mem_map.1 piece
    intro slash
    rw [String.toList_ofList] at slash
    rcases mem_percentEncode slash with inside | sign | alphanumeric
    · exact not_mem_splitEvery (by simp [isSlash]) there inside
    · exact absurd sign (by decide)
    · exact absurd alphanumeric (by decide)
  · exact List.not_mem_nil

theorem encodedSegment_nil : String.ofList (percentEncode pathSet []) = "" := String.ofList_nil

theorem parseSegments_ne_nil : parseSegments special [] cs ≠ [] :=
  addSegments_ne_nil (by simpa using splitEvery_ne_nil _ _)

/-- The path of a URL of the web is a list of segments, and none of them holds a slash. -/
theorem parseHostPath_eq (cs : List Char) : ∃ before last,
    parseHostPath true cs = .segments (before ++ [last]) ∧ '/' ∉ last.toList := by
  cases cs with
  | nil => exact ⟨[], "", rfl, List.not_mem_nil⟩
  | cons c rest =>
    obtain none | ⟨before, last, segments⟩ := List.eq_nil_or_concat
      (parseSegments true [] (if isSlash true c then rest else c :: rest))
    · exact absurd none parseSegments_ne_nil
    · rw [List.concat_eq_append] at segments
      refine ⟨before, last, congrArg Path.segments segments, ?_⟩
      exact noSlash_of_mem_parseSegments (segments ▸ List.mem_append_right _ List.mem_cons_self)

theorem stem_parseSegments_concat (cs : List Char) :
    (Path.segments (parseSegments special [] (cs ++ ['/']))).stem
    = (Path.segments (parseSegments special [] cs)).stem := by
  rw [parseSegments, splitEvery_concat (by simp [isSlash]), List.map_append]
  exact stem_addSegments_concat (by simpa using splitEvery_ne_nil _ _)

/-- **A slash after a text is a slash at the end of its path.** -/
theorem stem_parseHostPath_concat (cs : List Char) :
    (parseHostPath true (cs ++ ['/'])).stem = (parseHostPath true cs).stem := by
  cases cs with
  | nil =>
    rw [List.nil_append, parseHostPath, parseHostPath, if_pos rfl, if_pos (by rfl), parseSegments,
      splitEvery, List.map_singleton, encodedSegment_nil]
    rfl
  | cons c rest =>
    rw [List.cons_append, parseHostPath, parseHostPath]
    by_cases slash : isSlash true c = true
    · rw [if_pos slash, if_pos slash]
      exact stem_parseSegments_concat rest
    · rw [if_neg slash, if_neg slash]
      exact stem_parseSegments_concat (c :: rest)

theorem stem_parseHostPath (cs : List Char) (k : Nat) :
    (parseHostPath true (cs ++ List.replicate k '/')).stem = (parseHostPath true cs).stem := by
  induction k with
  | zero => rw [List.replicate_zero, List.append_nil]
  | succ k ih => rw [List.replicate_succ', ← List.append_assoc, stem_parseHostPath_concat, ih]

theorem percentEncode_of_blank {c : Char} (blank : isC0OrSpace c) :
    percentEncode pathSet [c] = percentByte (UInt8.ofNat c.toNat) := by
  have small : c.toNat ≤ 0x20 := by simpa [isC0OrSpace] using blank
  have encoded : pathSet c := by
    rcases Nat.lt_or_eq_of_le small with control | space
    · simp [pathSet, fragmentSet, controlSet, control]
    · obtain rfl : c = ' ' := Char.toNat_inj.1 space
      rfl
  rw [percentEncode, List.flatMap_singleton, if_pos encoded,
    Utf8.utf8EncodeChar_of_ascii (by omega), List.flatMap_singleton]

/-- **Controls and spaces are no slashes**: before one they are part of a longer path. -/
theorem parseHostPath_longer {slash : Char} (begins : isSlash true slash) {blanks : List Char}
    {c : Char} (all : ∀ d ∈ blanks ++ [c], isC0OrSpace d) : ∃ before last,
      parseHostPath true (slash :: (cs ++ (blanks ++ [c]) ++ ['/']))
        = .segments (before ++ [last, ""]) ∧
      (parseHostPath true (slash :: cs)).text.length
        < (Path.segments (before ++ [last])).text.length := by
  have noSlash : ∀ d ∈ blanks ++ [c], isSlash true d = false := fun d mem => by
    rw [isSlash, beq_false_of_ne (ne_of_isC0OrSpace (all d mem) (by decide)),
      beq_false_of_ne (ne_of_isC0OrSpace (all d mem) (by decide))]
    rfl
  have blank : isC0OrSpace c := all c (List.mem_append_right _ List.mem_cons_self)
  have small : (UInt8.ofNat c.toNat).toNat ≤ 0x20 := by
    have small : c.toNat ≤ 0x20 := by simpa [isC0OrSpace] using blank
    rwa [UInt8.toNat_ofNat_of_lt' (Nat.lt_of_le_of_lt small (by decide))]
  obtain ⟨pieces, piece, cut⟩ := splitEvery_append (isSlash true) cs
  have plain := cut [] fun d none => absurd none List.not_mem_nil
  rw [List.append_nil, List.append_nil] at plain
  -- the last segment as it is, and with the controls and spaces after it
  set shorter := percentEncode pathSet piece with def_shorter
  set longer := percentEncode pathSet (piece ++ (blanks ++ [c])) with def_longer
  have ending : longer = shorter ++ percentEncode pathSet blanks
      ++ percentByte (UInt8.ofNat c.toNat) := by
    rw [def_longer, ← List.append_assoc, percentEncode_append, percentEncode_append,
      percentEncode_of_blank blank]
  have lengths : (String.ofList shorter).length < (String.ofList longer).length := by
    rw [String.length_ofList, String.length_ofList, ending, List.append_assoc, List.length_append]
    exact Nat.lt_add_of_pos_right (by simp [percentByte])
  obtain ⟨single, double⟩ := not_isDot_of_percentByte small ((String.toList_ofList ..).trans ending)
  obtain ⟨before, path, textLengths⟩ := addSegments_longer []
    (pieces.map fun s => String.ofList (percentEncode pathSet s)) single double lengths
  refine ⟨before, String.ofList longer, ?_, ?_⟩
  · rw [parseHostPath, if_pos begins, parseSegments, splitEvery_concat (by simp [isSlash]),
      cut _ noSlash, ← path]
    simp only [List.map_append, List.map_cons, List.map_nil, encodedSegment_nil, ← def_longer,
      List.append_assoc, List.cons_append, List.nil_append]
  · rw [parseHostPath, if_pos begins, parseSegments, plain, List.map_append, List.map_singleton]
    exact textLengths

end Text

end Exposition.Url
