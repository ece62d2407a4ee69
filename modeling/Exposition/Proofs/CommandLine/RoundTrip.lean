import Exposition.Proofs.CommandLine.Piece
import Exposition.Proofs.Each

/-!
# Proofs/CommandLine/RoundTrip — reading undoes writing

A command line is **written** with its options and flags in full and in any order, those of the
whole program all before or all after the verb, and what is known by its place at the end, after a
double dash (`CommandLine.Writes`).  Options at their usual values may be left out.  Reading gives
the command line back (`CommandLine.read_writes`).
-/

namespace Exposition

open Text CommandLine

/-! ## Writing -/

/-- The settings that are given, as options. -/
def Overrides.pieces (o : Overrides) : List Piece :=
  (o.apiUrl.map .apiUrl).toList ++ (o.logLevel.map .logLevel).toList
    ++ (o.pageSize.map .pageSize).toList

namespace Command

/-- The verb of a command. -/
def verb : Command → Verb
  | .languages => .languages
  | .levels => .levels
  | .health => .health
  | .stats => .stats
  | .browse => .browse
  | .explain _ => .explain
  | .history _ => .history
  | .details _ => .details
  | .favorite _ _ => .favorite
  | .delete _ _ => .delete

/-- **The options and flags that say what a command is**, besides its verb. -/
def pieces : Command → List Piece
  | .explain o => [.language o.language, .level o.level] ++ (o.sample.map .sample).toList
  | .history o => (o.language.map .language).toList ++ (o.level.map .level).toList
    ++ (o.isFavorite.map .isFavorite).toList ++ (o.search.map .search).toList ++ [.page o.page]
  | .favorite _ isFavorite => if isFavorite then [] else [.off]
  | .delete _ isConfirmed => if isConfirmed then [.yes] else []
  | _ => []

/-- What a command has in a place: its file, or the number of its record. -/
def place? : Command → Option String
  | .explain o => o.file
  | .details id => some (decimalInt id)
  | .favorite id _ => some (decimalInt id)
  | .delete id _ => some (decimalInt id)
  | _ => none

/-- **How the arguments of a command end**: what is in a place comes after a double dash. -/
def EndsIn (c : Command) (arguments : List String) : Prop :=
  match c.place? with
  | some text => arguments = ["--", text]
  | none => arguments = [] ∨ arguments = ["--"]

/-- The number of a record, as a service has it. -/
def IsId (id : Int) : Prop := -(maxSigned : Int) - 1 ≤ id ∧ id ≤ maxSigned

/-- **A command that can be given**: its numbers are within their bounds, its file has a name, and
it has no example besides a file. -/
def IsSound : Command → Prop
  | .explain o => o.file ≠ some "" ∧ (o.file = none ∨ o.sample = none)
  | .history o => 1 ≤ o.page ∧ o.page ≤ maxWord
  | .details id => IsId id
  | .favorite id _ => IsId id
  | .delete id _ => IsId id
  | _ => True

end Command

/-- What goes without saying after a verb. -/
def CommandLine.Verb.usual : Verb → List Piece
  | .explain => [.language "auto", .level .intermediate]
  | .history => [.page 1]
  | _ => []

namespace CommandLine

/-- **A command line that can be given.** -/
structure IsSound (line : CommandLine) : Prop where
  command : line.command.IsSound
  pageSize : ∀ size, line.overrides.pageSize = some size → 1 ≤ size ∧ size ≤ largestPageSize

/-- **The arguments write a command line.**  Options at their usual values may be left out. -/
inductive Writes (line : CommandLine) : List String → Prop
  /-- The options of the whole program stand before the verb. -/
  | before {shared own left : List Piece} {rest : List String}
    (settings : shared.Perm line.overrides.pieces)
    (whole : (own ++ left).Perm line.command.pieces) (usual : left ⊆ line.command.verb.usual)
    (ends : line.command.EndsIn rest) :
    Writes line
      (shared.map Piece.word ++ line.command.verb.word :: (own.map Piece.word ++ rest))
  /-- All options stand after the verb. -/
  | after {given left : List Piece} {rest : List String}
    (whole : (given ++ left).Perm (line.overrides.pieces ++ line.command.pieces))
    (usual : left ⊆ line.command.verb.usual) (ends : line.command.EndsIn rest) :
    Writes line (line.command.verb.word :: (given.map Piece.word ++ rest))

end CommandLine

/-! ## What the pieces are about -/

/-- The options of the whole program. -/
def sharedSubjects : List (Key ⊕ Flag) := Scope.common.map .inl

/-- The options and flags of a verb. -/
def CommandLine.Verb.ownSubjects : Verb → List (Key ⊕ Flag)
  | .explain => [.inl .language, .inl .level, .inl .sample]
  | .history => [.inl .language, .inl .level, .inl .isFavorite, .inl .search, .inl .page]
  | .favorite => [.inr .off]
  | .delete => [.inr .yes]
  | _ => []

theorem subjects_optional {α : Type} {subject : Key ⊕ Flag} (f : α → Piece)
    (about : ∀ a, (f a).subject = subject) (value : Option α) :
    ((value.map f).toList.map Piece.subject).Sublist [subject] := by
  cases value with
  | none => exact List.nil_sublist _
  | some a =>
    change [(f a).subject].Sublist _
    rw [about]

theorem Overrides.subjects_pieces (o : Overrides) :
    (o.pieces.map Piece.subject).Sublist sharedSubjects := by
  rw [pieces, List.map_append, List.map_append]
  exact ((subjects_optional Piece.apiUrl (fun _ => rfl) o.apiUrl).append
    (subjects_optional Piece.logLevel (fun _ => rfl) o.logLevel)).append
    (subjects_optional Piece.pageSize (fun _ => rfl) o.pageSize)

theorem Command.subjects_pieces (c : Command) :
    (c.pieces.map Piece.subject).Sublist c.verb.ownSubjects := by
  cases c with
  | explain o =>
    rw [pieces, List.map_append]
    exact (List.Sublist.refl [Sum.inl Key.language, .inl .level]).append
      (subjects_optional Piece.sample (fun _ => rfl) o.sample)
  | history o =>
    rw [pieces, List.map_append, List.map_append, List.map_append, List.map_append]
    exact ((((subjects_optional Piece.language (fun _ => rfl) o.language).append
      (subjects_optional Piece.level (fun _ => rfl) o.level)).append
      (subjects_optional Piece.isFavorite (fun _ => rfl) o.isFavorite)).append
      (subjects_optional Piece.search (fun _ => rfl) o.search)).append
      (List.Sublist.refl [Sum.inl Key.page])
  | favorite id isFavorite =>
    cases isFavorite with
    | false => exact List.Sublist.refl _
    | true => exact List.nil_sublist _
  | delete id isConfirmed =>
    cases isConfirmed with
    | false => exact List.nil_sublist _
    | true => exact List.Sublist.refl _
  | _ => exact List.nil_sublist _

/-- The options of the whole program may stand in every part. -/
theorem sharedSubjects_subset (s : Scope) : sharedSubjects ⊆ s.subjects := by
  cases s with
  | none => decide
  | some verb => cases verb with
    | _ => decide

theorem ownSubjects_subset (verb : Verb) : verb.ownSubjects ⊆ Scope.subjects (some verb) := by
  cases verb with
  | _ => decide

section Line

variable (o : Overrides) (c : Command)

/-- No two pieces of a command line are about the same. -/
theorem nodup_subjects : ((o.pieces ++ c.pieces).map Piece.subject).Nodup := by
  rw [List.map_append]
  refine (o.subjects_pieces.append c.subjects_pieces).nodup ?_
  cases c.verb with
  | _ => decide

/-- All options may stand after the verb. -/
theorem takes_pieces : ∀ p ∈ o.pieces ++ c.pieces, p.subject ∈ Scope.subjects (some c.verb) := by
  intro p mem
  rcases List.mem_append.1 mem with shared | own
  · exact sharedSubjects_subset _ (o.subjects_pieces.subset (List.mem_map_of_mem shared))
  · exact ownSubjects_subset _ (c.subjects_pieces.subset (List.mem_map_of_mem own))

end Line

/-! ## What the pieces say -/

/-- What was given, with what a command has in a place. -/
def CommandLine.Given.placed (g : Given) : Command → Given
  | .explain o => { g with file := o.file }
  | .details id => { g with id := some id }
  | .favorite id _ => { g with id := some id }
  | .delete id _ => { g with id := some id }
  | _ => g

theorem Overrides.orElse_empty (o : Overrides) : o.orElse {} = o := by
  rw [orElse, Option.or_none, Option.or_none, Option.or_none]

theorem foldl_overrides (o : Overrides) {g : Given} (none : g.overrides = {}) :
    o.pieces.foldl Given.having g = { g with overrides := o } := by
  obtain ⟨apiUrl, logLevel, pageSize⟩ := o
  obtain ⟨overrides, language, level, sample, isFavorite, search, page, file, id, off, yes⟩ := g
  obtain rfl : overrides = {} := none
  cases apiUrl with
  | _ => cases logLevel with
    | _ => cases pageSize with
      | _ => rfl

/-- **The pieces of a command say which it is**, and nothing about the settings. -/
theorem command_foldl {c : Command} (sound : c.IsSound) (o : Overrides) :
    let g := c.pieces.foldl Given.having { ({} : Given).placed c with overrides := o }
    g.command c.verb = .ok c ∧ g.overrides = o := by
  cases c with
  | explain e =>
    obtain ⟨file, language, level, sample⟩ := e
    rcases sound.2 with rfl | rfl
    · cases sample with
      | _ => exact ⟨rfl, rfl⟩
    · cases file with
      | _ => exact ⟨rfl, rfl⟩
  | history h =>
    obtain ⟨language, level, isFavorite, search, page⟩ := h
    cases language with
    | _ => cases level with
      | _ => cases isFavorite with
        | _ => cases search with
          | _ => exact ⟨rfl, rfl⟩
  | favorite id isFavorite =>
    cases isFavorite with
    | _ => exact ⟨rfl, rfl⟩
  | delete id isConfirmed =>
    cases isConfirmed with
    | _ => exact ⟨rfl, rfl⟩
  | _ => exact ⟨rfl, rfl⟩

/-- Nothing comes of a piece at its usual value. -/
theorem having_usual {g : Given} {verb : Verb} {p : Piece} (usual : p ∈ verb.usual)
    (lacks : g.Lacks p) :
    (g.having p).command verb = g.command verb ∧ (g.having p).overrides = g.overrides := by
  obtain ⟨overrides, language, level, sample, isFavorite, search, page, file, id, off, yes⟩ := g
  cases verb with
  | explain =>
    rcases List.mem_pair.1 usual with rfl | rfl
    · obtain rfl : language = none := lacks
      exact ⟨rfl, rfl⟩
    · obtain rfl : level = none := lacks
      exact ⟨rfl, rfl⟩
  | history =>
    obtain rfl := List.mem_singleton.1 usual
    obtain rfl : page = none := lacks
    exact ⟨rfl, rfl⟩
  | _ => exact absurd usual List.not_mem_nil

theorem foldl_usual {verb : Verb} {left : List Piece} (usual : left ⊆ verb.usual)
    (distinct : (left.map Piece.subject).Nodup) {g : Given} (lacks : ∀ p ∈ left, g.Lacks p) :
    (left.foldl Given.having g).command verb = g.command verb
      ∧ (left.foldl Given.having g).overrides = g.overrides := by
  induction left generalizing g with
  | nil => exact ⟨rfl, rfl⟩
  | cons p left ih =>
    rw [List.map_cons, List.nodup_cons] at distinct
    rw [List.cons_subset] at usual
    rw [List.forall_mem_cons] at lacks
    obtain ⟨command, overrides⟩ := having_usual usual.1 lacks.1
    rw [List.foldl_cons, ← command, ← overrides]
    refine ih usual.2 distinct.2 fun q mem => Given.lacks_having (fun same => ?_) (lacks.2 q mem)
    exact distinct.1 (same ▸ List.mem_map_of_mem mem)

theorem placed_foldl (c : Command) (pieces : List Piece) (g : Given) :
    (pieces.foldl Given.having g).placed c = pieces.foldl Given.having (g.placed c) := by
  have placed_having (g : Given) (p : Piece) : (g.having p).placed c = (g.placed c).having p := by
    cases c with
    | _ => cases p with
      | _ => rfl
  induction pieces generalizing g with
  | nil => rfl
  | cons p pieces ih => rw [List.foldl_cons, List.foldl_cons, ih, placed_having]

theorem CommandLine.Given.lacks_empty (p : Piece) : ({} : Given).Lacks p := by
  cases p with
  | _ => rfl

theorem lacks_placed (c : Command) (p : Piece) : (({} : Given).placed c).Lacks p := by
  cases c with
  | _ => cases p with
    | _ => rfl

/-- **What is written says which command line it is**, whatever goes without saying. -/
theorem command_of_written {line : CommandLine} (sound : line.command.IsSound)
    {given left : List Piece}
    (whole : (given ++ left).Perm (line.overrides.pieces ++ line.command.pieces))
    (usual : left ⊆ line.command.verb.usual) :
    ((given.foldl Given.having {}).placed line.command).command line.command.verb
      = .ok line.command
    ∧ ((given.foldl Given.having {}).placed line.command).overrides = line.overrides := by
  have distinct : ((given ++ left).map Piece.subject).Nodup :=
    (whole.map Piece.subject).nodup_iff.2 (nodup_subjects line.overrides line.command)
  have all : left.foldl Given.having (given.foldl Given.having (({} : Given).placed line.command))
      = line.command.pieces.foldl Given.having
        { ({} : Given).placed line.command with overrides := line.overrides } := by
    rw [← List.foldl_append, Given.foldl_having_perm whole distinct, List.foldl_append,
      foldl_overrides]
    cases line.command with
    | _ => rfl
  rw [List.map_append, List.nodup_append'] at distinct
  obtain ⟨-, distinct, apart⟩ := distinct
  obtain ⟨command, overrides⟩ := foldl_usual usual distinct
    (g := given.foldl Given.having (({} : Given).placed line.command)) fun q mem =>
      Given.lacks_foldl (fun p hp same => apart (List.mem_map_of_mem hp)
        (same ▸ List.mem_map_of_mem mem)) (lacks_placed _ q)
  rw [placed_foldl, ← command, ← overrides, all]
  exact command_foldl sound line.overrides

/-! ## Reading -/

namespace CommandLine

/-- Pieces leave the places alone. -/
theorem Given.places_foldl (pieces : List Piece) (g : Given) :
    (pieces.foldl having g).file = g.file ∧ (pieces.foldl having g).id = g.id := by
  induction pieces generalizing g with
  | nil => exact ⟨rfl, rfl⟩
  | cons p pieces ih =>
    obtain ⟨file, id⟩ := ih (g.having p)
    rw [List.foldl_cons, file, id]
    cases p with
    | _ => exact ⟨rfl, rfl⟩

theorem readId_decimalInt {id : Int} (bounds : Command.IsId id) :
    readId (decimalInt id) = .ok id := by
  rw [readId, readInt_decimalInt bounds.1 bounds.2]

/-- What a command has in a place is read from its text. -/
theorem Given.withPlace_of_place? {g : Given} {c : Command} {text : String} (sound : c.IsSound)
    (holds : c.place? = some text) (noFile : g.file = none) (noId : g.id = none) :
    ∃ place, Scope.place? (some c.verb) = some place
      ∧ g.withPlace place text = .ok (g.placed c) := by
  cases c with
  | explain o =>
    have named : text ≠ "" := fun empty => sound.1 (empty ▸ holds)
    have file : o.file = some text := holds
    refine ⟨.file, rfl, ?_⟩
    rw [withPlace, readFileName, if_neg named, once_none noFile, placed, file]
    rfl
  | details id | favorite id _ | delete id _ =>
    obtain rfl := Option.some.inj holds
    refine ⟨.id, rfl, ?_⟩
    rw [withPlace, readId_decimalInt sound, once_none noId, placed]
    rfl
  | _ => cases holds

/-- Without anything in a place nothing is added. -/
theorem Given.placed_of_none {g : Given} {c : Command} (holds : c.place? = none)
    (noFile : g.file = none) : g.placed c = g := by
  cases c with
  | explain o =>
    have file : o.file = none := holds
    rw [placed, file, ← noFile]
  | details | favorite | delete => cases holds
  | _ => rfl

namespace Reader

variable {r : Reader}

theorem take_dash (undashed : r.dashed = false) :
    r.take "--" = .ok { r with dashed := true } := by
  rw [take, undashed]
  rfl

/-- **The end of the arguments** adds what the command has in a place. -/
theorem take_end {c : Command} {rest : List String} (sound : c.IsSound) (ends : c.EndsIn rest)
    (undashed : r.dashed = false) (idle : r.pending = .nothing)
    (free : r.place = Scope.place? (some c.verb)) (noFile : r.given.file = none)
    (noId : r.given.id = none) :
    ∃ r' r'', rest.foldlM take r = .ok r' ∧ r'.resolve = .ok r''
      ∧ r''.given = r.given.placed c := by
  rw [Command.EndsIn] at ends
  cases holds : c.place? with
  | none =>
    rw [holds] at ends
    rcases ends with rfl | rfl
    · exact ⟨r, r, rfl, resolve_of_idle idle, (Given.placed_of_none holds noFile).symm⟩
    · refine ⟨{ r with dashed := true }, _, ?_, resolve_of_idle idle,
        (Given.placed_of_none holds noFile).symm⟩
      rw [List.foldlM_cons, take_dash undashed]
      rfl
  | some text =>
    rw [holds] at ends
    obtain rfl := ends
    obtain ⟨place, there, gives⟩ := Given.withPlace_of_place? sound holds noFile noId
    have taken : ({ r with dashed := true } : Reader).take text
        = .ok { r with dashed := true, pending := .placeValue place text, place := none } := by
      rw [take, if_pos rfl, takePlace, free, there]
      dsimp only
      rw [resolve, idle]
      rfl
    refine ⟨{ r with dashed := true, pending := .placeValue place text, place := none },
      { r with dashed := true, given := r.given.placed c, pending := .nothing, place := none },
      ?_, ?_, rfl⟩
    · rw [List.foldlM_cons, take_dash undashed]
      exact (bind_pure _).trans taken
    · rw [resolve]
      dsimp only
      rw [gives]
      rfl

end Reader

theorem IsSound.overrides_pieces {line : CommandLine} (sound : line.IsSound) :
    ∀ p ∈ line.overrides.pieces, p.IsSound := by
  intro p mem
  rw [Overrides.pieces, List.mem_append, List.mem_append] at mem
  rcases mem with (url | level) | size
  · obtain ⟨s, -, rfl⟩ := Option.map_eq_some_iff.1 (Option.mem_toList.1 url)
    trivial
  · obtain ⟨l, -, rfl⟩ := Option.map_eq_some_iff.1 (Option.mem_toList.1 level)
    trivial
  · obtain ⟨n, given, rfl⟩ := Option.map_eq_some_iff.1 (Option.mem_toList.1 size)
    exact sound.pageSize n given

theorem IsSound.command_pieces {line : CommandLine} (sound : line.IsSound) :
    ∀ p ∈ line.command.pieces, p.IsSound := by
  have bounds := sound.command
  intro p mem
  cases command : line.command with
  | history o =>
    rw [command] at mem bounds
    cases p with
    | page n =>
      obtain rfl : n = o.page := by simpa [Command.pieces] using mem
      exact bounds
    | pageSize n => simp [Command.pieces] at mem
    | _ => trivial
  | explain o =>
    rw [command] at mem
    cases p with
    | page n | pageSize n => simp [Command.pieces] at mem
    | _ => trivial
  | favorite id isFavorite =>
    rw [command, Command.pieces] at mem
    split at mem
    · cases mem
    · obtain rfl := List.mem_singleton.1 mem
      trivial
  | delete id isConfirmed =>
    rw [command, Command.pieces] at mem
    split at mem
    · obtain rfl := List.mem_singleton.1 mem
      trivial
    · cases mem
  | _ =>
    rw [command] at mem
    cases mem

/-- **What is written after a verb is read**, with whatever goes without saying. -/
theorem readAfter_written {line : CommandLine} (sound : line.IsSound) {given left : List Piece}
    {rest : List String}
    (whole : (given ++ left).Perm (line.overrides.pieces ++ line.command.pieces))
    (usual : left ⊆ line.command.verb.usual) (ends : line.command.EndsIn rest) :
    readAfter line.command.verb (given.map Piece.word ++ rest) = .ok line := by
  have distinct : ((given ++ left).map Piece.subject).Nodup :=
    (whole.map Piece.subject).nodup_iff.2 (nodup_subjects line.overrides line.command)
  have written (p : Piece) (mem : p ∈ given) : p ∈ line.overrides.pieces ++ line.command.pieces :=
    whole.subset (List.mem_append_left left mem)
  have inBounds (p : Piece) (mem : p ∈ given) : p.IsSound :=
    (List.mem_append.1 (written p mem)).elim (sound.overrides_pieces p) (sound.command_pieces p)
  rw [List.map_append] at distinct
  have words := Reader.take_words (r := { scope := some line.command.verb }) rfl rfl
    (fun p mem => takes_pieces _ _ p (written p mem)) inBounds distinct.of_append_left
    fun p _ => Given.lacks_empty p
  obtain ⟨noFile, noId⟩ := Given.places_foldl given {}
  obtain ⟨r', r'', taken, resolved, placed⟩ := Reader.take_end sound.command ends
    (r := { scope := some line.command.verb, given := given.foldl Given.having {} })
    rfl rfl rfl noFile noId
  obtain ⟨command, overrides⟩ := command_of_written sound.command whole usual
  have read : (given.map Piece.word ++ rest).foldlM Reader.take
      { scope := some line.command.verb } = .ok r' := by
    rw [List.foldlM_append, words]
    exact taken
  rw [readAfter]
  dsimp only
  rw [read]
  change (do
    let given := (← r'.resolve).given
    return { command := ← given.command line.command.verb, overrides := given.overrides } :
      Except Misuse CommandLine) = _
  rw [resolved]
  change (do
    return { command := ← r''.given.command line.command.verb, overrides := r''.given.overrides } :
      Except Misuse CommandLine) = _
  rw [placed, command, overrides]
  rfl

/-! Up to the verb. -/

/-- What begins with a dash is no verb, and no call for help. -/
theorem Piece.word_not_topic (p : Piece) : p.word ≠ Verb.help ∧ Verb.find? p.word = none := by
  have dash : p.word.toList.head? = some '-' := by
    rw [word]
    cases p.spelled with
    | inl valued =>
      dsimp only
      rw [String.append_assoc, String.append_assoc, String.toList_append]
      rfl
    | inr flag =>
      dsimp only
      rw [String.toList_append]
      rfl
  constructor
  · intro same
    rw [same] at dash
    exact absurd dash (by decide)
  · refine List.find?_eq_none.2 fun verb _ same => ?_
    rw [← eq_of_beq same] at dash
    cases verb with
    | _ => exact absurd dash (by decide)

/-- **Options before the verb** are read like those after one. -/
theorem readBefore_words {pieces : List Piece} {r r' : Reader}
    (taken : (pieces.map Piece.word).foldlM Reader.take r = .ok r') (rest : List String) :
    readBefore r (pieces.map Piece.word ++ rest) = readBefore r' rest := by
  induction pieces generalizing r with
  | nil =>
    obtain rfl : r = r' := Except.ok.inj taken
    rfl
  | cons p pieces ih =>
    rw [List.map_cons, List.foldlM_cons] at taken
    obtain ⟨r'', first, later⟩ := exists_of_bind_eq_ok taken
    obtain ⟨noHelp, noVerb⟩ := p.word_not_topic
    rw [List.map_cons, List.cons_append, readBefore, if_neg (by simp [noHelp]), noVerb, ite_self]
    dsimp only
    rw [first]
    exact ih later

/-- The verb ends what comes before it, and what comes after it takes precedence. -/
theorem readBefore_verb {r : Reader} (undashed : r.dashed = false) (idle : r.pending = .nothing)
    {verb : Verb} {rest : List String} {line : CommandLine}
    (after : readAfter verb rest = .ok line) : readBefore r (verb.word :: rest)
      = .ok { line with overrides := line.overrides.orElse r.given.overrides } := by
  have takes : r.takesVerb = true := by
    rw [Reader.takesVerb, undashed, idle]
    rfl
  have noHelp : (verb.word == Verb.help) = false := by
    cases verb with
    | _ => decide
  have known : Verb.find? verb.word = some verb := by
    cases verb with
    | _ => decide
  rw [readBefore, takes, noHelp, known]
  dsimp only
  rw [if_neg (by simp), if_pos rfl]
  dsimp only
  rw [after]
  change (do
    let r' ← r.resolve
    return { line with overrides := line.overrides.orElse r'.given.overrides } :
      Except Misuse CommandLine) = _
  rw [Reader.resolve_of_idle idle]
  rfl

/-- **Reading undoes writing.** -/
theorem read_writes {line : CommandLine} (sound : line.IsSound) {arguments : List String}
    (written : line.Writes arguments) : read arguments = .ok line := by
  cases written with
  | @before shared own left rest settings whole usual ends =>
    have about : (line.overrides.pieces.map Piece.subject).Nodup :=
      (line.overrides.subjects_pieces).nodup (by decide)
    have words := Reader.take_words (r := { scope := none }) rfl rfl
      (fun p mem => sharedSubjects_subset none
        (line.overrides.subjects_pieces.subset (List.mem_map_of_mem (settings.subset mem))))
      (fun p mem => sound.overrides_pieces p (settings.subset mem))
      ((settings.map Piece.subject).nodup_iff.2 about) fun p _ => Given.lacks_empty p
    have plain : IsSound { line with overrides := {} } :=
      ⟨sound.command, fun _ given => nomatch given⟩
    have later := readAfter_written plain whole usual ends
    rw [read, readBefore_words words, readBefore_verb rfl rfl later]
    dsimp only
    rw [Given.foldl_having_perm settings ((settings.map Piece.subject).nodup_iff.2 about),
      foldl_overrides _ rfl]
    rfl
  | after whole usual ends =>
    rw [read, readBefore_verb rfl rfl (readAfter_written sound whole usual ends)]
    dsimp only
    rw [Overrides.orElse_empty]

/-- Neither dashes nor equals signs in what is written lead astray, before the verb or after. -/
theorem read_writes_of_signs :
    read ["--page-size=100", "--base-url=-=", "favorite", "--off", "--", "-7"]
      = .ok { command := .favorite (-7) false
              overrides := { apiUrl := some "-=", pageSize := some 100 } }
    ∧ read ["history", "--search=--page=2", "--log-level=warn", "--complexity=advanced"]
      = .ok { command := .history { level := some .advanced, search := some "--page=2" }
              overrides := { logLevel := some .warn } } := by
  constructor
  · have written := @Writes.before
      { command := .favorite (-7) false
        overrides := { apiUrl := some "-=", pageSize := some 100 } }
      [.pageSize 100, .apiUrl "-="] [.off] [] ["--", "-7"] (by decide) (by decide)
      (List.nil_subset _) rfl
    refine read_writes ⟨?_, fun size given => ?_⟩ written
    · exact ⟨by decide, by decide⟩
    · exact Option.some.inj given ▸ ⟨by decide, by decide⟩
  · have written := @Writes.after
      { command := .history { level := some .advanced, search := some "--page=2" }
        overrides := { logLevel := some .warn } }
      [.search "--page=2", .logLevel .warn, .level .advanced] [.page 1] [] (by decide)
      (List.Subset.refl _) (.inl rfl)
    refine read_writes ⟨?_, ?_⟩ written
    · exact ⟨by decide, by decide⟩
    · exact fun size given => nomatch given

end CommandLine

end Exposition
