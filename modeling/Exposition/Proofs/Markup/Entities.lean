import Exposition.Proofs.Markup.Replace

/-!
# Proofs/Markup/Entities — no entity is decoded twice

Words can be replaced one after the other, each in the whole text that the ones before have left, or
all in one pass from left to right, which never looks at what it has put in.  The two come to the
same if every word begins with a mark that occurs nowhere else in a word, and if what is put in for
a word occurs in none of the words after it (`foldl_replaceAll`): then no replacement makes, breaks
or joins a later word.  The entities are such words, as long as `&amp;` comes last
(`decodes_in_one_pass`).
-/

namespace Exposition

namespace Text

/-- **Several words replaced in one pass**: where a word of the table stands, its character is put
in, and any other character is copied.  What was put in is not looked at again; of several words
that stand in one place the first in the table counts. -/
def replaceEach (table : List (String × Char)) : List Char → List Char
  | [] => []
  | c :: cs =>
    match table.find? fun entry => entry.1.toList.isPrefixOf (c :: cs) with
    | some (word, put) => put :: replaceEach table (cs.drop (word.toList.length - 1))
    | none => c :: replaceEach table cs
termination_by cs => cs.length
decreasing_by all_goals (simp; try omega)

/-- Every word of the table begins with a mark that is nowhere else in it. -/
def Marked (mark : Char) (table : List (String × Char)) : Prop :=
  ∀ entry ∈ table, entry.1.toList.head? = some mark ∧ mark ∉ entry.1.toList.tail

instance (mark : Char) (table : List (String × Char)) : Decidable (Marked mark table) :=
  inferInstanceAs (Decidable
    (∀ entry ∈ table, entry.1.toList.head? = some mark ∧ mark ∉ entry.1.toList.tail))

variable {mark c put : Char} {table : List (String × Char)} {word cs rest : List Char}

/-! ## One step of the pass -/

theorem replaceEach_nil : replaceEach table [] = [] := by
  rw [replaceEach]

/-- Without words nothing is replaced. -/
theorem replaceEach_of_nil : replaceEach [] cs = cs := by
  induction cs with
  | nil => exact replaceEach_nil
  | cons c cs ih => rw [replaceEach, List.find?_nil, ih]

theorem replaceEach_cons_of_none
    (none : ∀ entry ∈ table, ¬ entry.1.toList <+: c :: cs) :
    replaceEach table (c :: cs) = c :: replaceEach table cs := by
  have missing : (table.find? fun entry => entry.1.toList.isPrefixOf (c :: cs)) = Option.none :=
    List.find?_eq_none.2 fun entry mem => mt List.isPrefixOf_iff_prefix.1 (none entry mem)
  rw [replaceEach, missing]

/-- Characters with which no word begins are copied. -/
theorem replaceEach_append_of_not_mem (marked : Marked mark table) (absent : mark ∉ cs) :
    replaceEach table (cs ++ rest) = cs ++ replaceEach table rest := by
  induction cs with
  | nil => rfl
  | cons c cs ih =>
    obtain ⟨other, absent⟩ := not_or.1 (mt List.mem_cons.2 absent)
    have none : ∀ entry ∈ table, ¬ entry.1.toList <+: c :: (cs ++ rest) := by
      intro entry mem found
      obtain ⟨tail, begins⟩ := List.head?_eq_some_iff.1 (marked entry mem).1
      rw [begins] at found
      exact other (List.cons_prefix_cons.1 found).1
    rw [List.cons_append, replaceEach_cons_of_none none, ih absent, List.cons_append]

/-- **The pass makes no word**: one in which nothing occurs that is put in stands in the result only
where it stood in the text. -/
theorem prefix_of_prefix_replaceEach (kept : ∀ entry ∈ table, entry.2 ∉ word)
    (found : word <+: replaceEach table cs) : word <+: cs := by
  induction word generalizing cs with
  | nil => exact List.nil_prefix
  | cons d word ih =>
    cases cs with
    | nil => rwa [replaceEach_nil] at found
    | cons c cs =>
      rw [replaceEach] at found
      split at found
      · next entry put hit =>
        have same : d = put := (List.cons_prefix_cons.1 found).1
        exact absurd (same ▸ List.mem_cons_self) (kept _ (List.mem_of_find?_eq_some hit))
      · obtain ⟨same, found⟩ := List.cons_prefix_cons.1 found
        rw [same]
        refine List.cons_prefix_cons.2 ⟨rfl, ih ?_ found⟩
        exact fun entry mem => mt (List.mem_cons_of_mem d) (kept entry mem)

/-! ## One word after the other -/

/-- **One more word** is replaced in the same pass, if nothing that was put in before occurs in it.
The induction follows the pass with the word, since each of its steps goes past a whole word. -/
theorem replaceAll_replaceEach {entity : String} (marked : Marked mark table)
    (begins : entity.toList = mark :: word) (absent : mark ∉ word)
    (kept : ∀ entry ∈ table, entry.2 ∉ entity.toList) (cs : List Char) :
    replaceAll entity.toList [put] (replaceEach table cs)
      = replaceEach (table ++ [(entity, put)]) cs := by
  rw [begins] at kept ⊢
  fun_induction replaceEach (table ++ [(entity, put)]) cs with
  | case1 => rw [replaceEach_nil, replaceAll]
  | case2 c cs found put' hit ih =>
    rw [List.find?_append, Option.or_eq_some_iff] at hit
    obtain before | ⟨none, own⟩ := hit
    · have other : put' ≠ mark := by
        rintro rfl
        exact kept _ (List.mem_of_find?_eq_some before) List.mem_cons_self
      have differs : ¬ mark :: word <+:
          put' :: replaceEach table (cs.drop (found.toList.length - 1)) := by
        intro begun
        exact other (List.cons_prefix_cons.1 begun).1.symm
      rw [replaceEach, before]
      refine Eq.trans ?_ (congrArg _ ih)
      exact replaceAll_cons_of_not_prefix differs
    · obtain ⟨rfl, rfl⟩ : found = entity ∧ put' = put := by
        simpa using List.mem_of_find?_eq_some own
      have here : found.toList <+: c :: cs := by
        simpa using List.find?_some own
      obtain ⟨rest, whole⟩ := here
      rw [begins, List.cons_append] at whole
      obtain ⟨rfl, rfl⟩ := List.cons.inj whole
      -- no word before stands here, and none begins inside this one
      rw [begins, List.length_cons, Nat.add_sub_cancel, List.drop_left] at ih ⊢
      rw [replaceEach_cons_of_none (by simpa using none),
        replaceEach_append_of_not_mem marked absent, ← List.cons_append, replaceAll_word_append, ih]
      rfl
  | case3 c cs none ih =>
    obtain ⟨others, own⟩ : (∀ entry ∈ table, ¬ entry.1.toList <+: c :: cs)
        ∧ ¬ mark :: word <+: c :: cs := by
      simpa [begins] using none
    have differs : ¬ mark :: word <+: c :: replaceEach table cs := by
      intro found
      rw [← replaceEach_cons_of_none others] at found
      exact own (prefix_of_prefix_replaceEach kept found)
    rw [replaceEach_cons_of_none others, replaceAll_cons_of_not_prefix differs, ih]

/-- **One word after the other comes to one pass**, if what is put in for a word occurs in none of
the words after it. -/
theorem foldl_replaceAll (marked : Marked mark table)
    (kept : table.Pairwise fun entry later => entry.2 ∉ later.1.toList) (cs : List Char) :
    table.foldl (fun cs (word, put) => replaceAll word.toList [put] cs) cs
      = replaceEach table cs := by
  induction table using List.reverseRecOn with
  | nil => exact replaceEach_of_nil.symm
  | append_singleton table entry ih =>
    obtain ⟨before, -, after⟩ := List.pairwise_append.1 kept
    have earlier : Marked mark table := fun entry mem => marked entry (List.mem_append_left _ mem)
    obtain ⟨begins, absent⟩ := marked entry List.mem_concat_self
    obtain ⟨tail, begins⟩ := List.head?_eq_some_iff.1 begins
    rw [begins] at absent
    rw [List.foldl_append, ih earlier before]
    exact replaceAll_replaceEach earlier begins absent
      (fun entry' mem => after entry' mem entry (List.mem_singleton_self entry)) cs

end Text

namespace Markup

open Text

/-- **Decoding the entities one kind after the other is decoding them in one pass.** -/
theorem decodes_in_one_pass (cs : List Char) :
    readEntities cs = replaceEach [("&lt;", '<'), ("&gt;", '>'), ("&quot;", '"'), ("&#39;", '\''),
      ("&nbsp;", ' '), ("&amp;", '&')] cs :=
  foldl_replaceAll (by decide : Marked '&' entities) (by decide) cs

-- with `&amp;` first this would be decoded twice
example : readEntities "&amp;lt;&lt;".toList = "&lt;<".toList := by cbv

end Markup

end Exposition
