import Exposition.CommandLine.Reader
import Exposition.Proofs.Level
import Exposition.Proofs.Text.Numeral
import Exposition.Proofs.Text.Split
import Mathlib.Data.List.Nodup
import Mathlib.Data.List.Perm.Basic

/-!
# Proofs/CommandLine/Piece — options and flags, one at a time

A **piece** of a command line is an option with its value or a flag, known by its content and not by
its spelling.  Written in full it is one argument (`Piece.word`), and a reader that may take it adds
its content to what was given (`Reader.take_word`).  Pieces about different things do not get into
each other's way, so that a row of them gives the same in any order (`Given.foldl_having_perm`).
-/

namespace Exposition.CommandLine

open Text

/-- **An option with its value, or a flag.** -/
inductive Piece
  | apiUrl (address : String)
  | logLevel (level : LogLevel)
  | pageSize (size : Nat)
  | language (name : String)
  | level (level : Level)
  | sample (name : String)
  | isFavorite (isFavorite : Bool)
  | search (term : String)
  | page (page : Nat)
  | off
  | yes
deriving DecidableEq, Repr

namespace Piece

/-- The option of a piece and the text of its value, or the flag. -/
def spelled : Piece → Key × String ⊕ Flag
  | .apiUrl s => .inl (.apiUrl, s)
  | .logLevel l => .inl (.logLevel, l.word)
  | .pageSize n => .inl (.pageSize, decimal n)
  | .language s => .inl (.language, s)
  | .level l => .inl (.level, l.name)
  | .sample s => .inl (.sample, s)
  | .isFavorite b => .inl (.isFavorite, if b then "true" else "false")
  | .search s => .inl (.search, s)
  | .page n => .inl (.page, decimal n)
  | .off => .inr .off
  | .yes => .inr .yes

/-- **What a piece is about**, whatever it says of it. -/
def subject (p : Piece) : Key ⊕ Flag := p.spelled.map Prod.fst id

/-- **A piece as an argument**, written in full. -/
def word (p : Piece) : String :=
  match p.spelled with
  | .inl (key, text) => "--" ++ key.name ++ "=" ++ text
  | .inr flag => "--" ++ flag.name

/-- A piece whose value is within its bounds. -/
def IsSound : Piece → Prop
  | .pageSize n => 1 ≤ n ∧ n ≤ largestPageSize
  | .page n => 1 ≤ n ∧ n ≤ maxWord
  | _ => True

end Piece

/-- The options and flags of a part. -/
def Scope.subjects (s : Scope) : List (Key ⊕ Flag) := s.keys.map .inl ++ s.flags.map .inr

namespace Given

/-- **What was given, with one more piece.** -/
def having (g : Given) : Piece → Given
  | .apiUrl s => { g with overrides.apiUrl := some s }
  | .logLevel l => { g with overrides.logLevel := some l }
  | .pageSize n => { g with overrides.pageSize := some n }
  | .language s => { g with language := some s }
  | .level l => { g with level := some l }
  | .sample s => { g with sample := some s }
  | .isFavorite b => { g with isFavorite := some b }
  | .search s => { g with search := some s }
  | .page n => { g with page := some n }
  | .off => { g with off := true }
  | .yes => { g with yes := true }

/-- Nothing was given yet of what a piece is about. -/
def Lacks (g : Given) : Piece → Prop
  | .apiUrl _ => g.overrides.apiUrl = none
  | .logLevel _ => g.overrides.logLevel = none
  | .pageSize _ => g.overrides.pageSize = none
  | .language _ => g.language = none
  | .level _ => g.level = none
  | .sample _ => g.sample = none
  | .isFavorite _ => g.isFavorite = none
  | .search _ => g.search = none
  | .page _ => g.page = none
  | .off => g.off = false
  | .yes => g.yes = false

/-- Pieces about different things do not get into each other's way. -/
theorem having_having {p q : Piece} (other : p.subject ≠ q.subject) (g : Given) :
    (g.having p).having q = (g.having q).having p := by
  cases p with
  | _ => cases q with
    | _ => first | rfl | exact absurd rfl other

theorem lacks_having {p q : Piece} (other : p.subject ≠ q.subject) {g : Given}
    (lacks : g.Lacks q) : (g.having p).Lacks q := by
  cases p with
  | _ => cases q with
    | _ => first | exact lacks | exact absurd rfl other

theorem lacks_foldl {pieces : List Piece} {q : Piece}
    (other : ∀ p ∈ pieces, p.subject ≠ q.subject) {g : Given} (lacks : g.Lacks q) :
    (pieces.foldl having g).Lacks q := by
  induction pieces generalizing g with
  | nil => exact lacks
  | cons p pieces ih =>
    rw [List.forall_mem_cons] at other
    exact ih other.2 (lacks_having other.1 lacks)

/-- **The order of pieces does not matter** if they are about different things. -/
theorem foldl_having_perm {pieces pieces' : List Piece} (perm : pieces.Perm pieces')
    (distinct : (pieces.map Piece.subject).Nodup) (g : Given) :
    pieces.foldl having g = pieces'.foldl having g := by
  refine perm.foldl_eq' (fun p hp q hq g => ?_) g
  by_cases same : p = q
  · rw [same]
  · exact having_having (fun about => same (List.inj_on_of_nodup_map distinct hp hq about)) g

/-- The option or flag of a piece, taken by its spelling. -/
def take (g : Given) : Key × String ⊕ Flag → Except Misuse Given
  | .inl (key, text) => g.withKey key text
  | .inr flag => g.withFlag flag

/-- A value for what has none yet. -/
theorem once_none {α : Type} {old : Option α} (lacks : old = none) (a : α) :
    once old (.ok a) = .ok (some a) := by
  rw [lacks]
  rfl

theorem readCount_decimal {limit n : Nat} (first : 1 ≤ n) (last : n ≤ limit) :
    readCount limit (decimal n) = .ok n := by
  rw [readCount, readNat_decimal last]
  exact if_neg (by omega)

theorem readLevel_name (l : Level) : readLevel l.name = .ok l := by
  have read : Level.read l.name = .ok l := Level.read_of_letters (by
    cases l with
    | _ => decide)
  rw [readLevel, read]

theorem readLogLevel_word (l : LogLevel) : readLogLevel l.word = .ok l := by
  cases l with
  | _ => decide

theorem readBool_of (b : Bool) : readBool (if b then "true" else "false") = .ok b := by
  cases b with
  | _ => rfl

/-- **A piece is read from its spelling.** -/
theorem take_spelled {g : Given} {p : Piece} (sound : p.IsSound) (lacks : g.Lacks p) :
    g.take p.spelled = .ok (g.having p) := by
  cases p with
  | logLevel l =>
    rw [Piece.spelled, take, withKey, readLogLevel_word, once_none lacks]
    rfl
  | level l =>
    rw [Piece.spelled, take, withKey, readLevel_name, once_none lacks]
    rfl
  | isFavorite b =>
    rw [Piece.spelled, take, withKey, readBool_of, once_none lacks]
    rfl
  | pageSize n | page n =>
    rw [Piece.spelled, take, withKey, readCount_decimal sound.1 sound.2, once_none lacks]
    rfl
  | apiUrl | language | sample | search =>
    rw [Piece.spelled, take, withKey, once_none lacks]
    rfl
  | off | yes =>
    rw [Piece.spelled, take, withFlag, if_neg (Bool.not_eq_true _ ▸ lacks)]
    rfl

end Given

/-! ## Arguments -/

section Names

theorem find?_of_injective {α : Type} {name : α → String}
    (inj : ∀ a b, name a = name b → a = b) {as : List α} {a : α} (mem : a ∈ as) :
    as.find? (name · == name a) = some a := by
  induction as with
  | nil => exact absurd mem List.not_mem_nil
  | cons b as ih =>
    rw [List.find?_cons]
    by_cases same : name b = name a
    · rw [beq_iff_eq.2 same, inj b a same]
    · rw [beq_false_of_ne same]
      have later : a ∈ as := (List.mem_cons.1 mem).resolve_left fun first => same (first ▸ rfl)
      exact ih later

theorem Key.name_inj (k k' : Key) (same : k.name = k'.name) : k = k' := by
  cases k with
  | _ => cases k' with
    | _ => first | rfl | exact absurd same (by decide)

theorem Flag.name_inj (f f' : Flag) (same : f.name = f'.name) : f = f' := by
  cases f with
  | _ => cases f' with
    | _ => first | rfl | exact absurd same (by decide)

theorem Key.name_ne_name (k : Key) (f : Flag) : k.name ≠ f.name := by
  cases k with
  | _ => cases f with
    | _ => decide

/-- A name has no equals sign, so that it ends where the value begins. -/
theorem Key.name_whole (k : Key) : ∀ c ∈ k.name.toList, (c == '=') = false := by
  have whole : k.name.toList.all (!· == '=') := by
    cases k with
    | _ => decide
  exact fun c mem => Bool.eq_false_of_not_eq_true' (List.all_eq_true.1 whole c mem)

theorem Flag.name_whole (f : Flag) : ∀ c ∈ f.name.toList, (c == '=') = false := by
  have whole : f.name.toList.all (!· == '=') := by
    cases f with
    | _ => decide
  exact fun c mem => Bool.eq_false_of_not_eq_true' (List.all_eq_true.1 whole c mem)

theorem Flag.name_ne_nil (f : Flag) : f.name.toList ≠ [] := by
  cases f with
  | _ => decide

end Names

namespace Reader

variable {r : Reader}

/-- Two dashes are not all there is of an option. -/
theorem take_long {argument : String} {cs : List Char} (undashed : r.dashed = false)
    (long : argument.toList = '-' :: '-' :: cs) (some : cs ≠ []) :
    r.take argument = r.takeLong cs := by
  obtain ⟨c, cs, rfl⟩ := List.exists_cons_of_ne_nil some
  rw [take, undashed, long]
  rfl

theorem resolve_of_idle (idle : r.pending = .nothing) : r.resolve = .ok r := by
  rw [resolve, idle]

/-- An option with its value. -/
theorem takeLong_valued {key : Key} {text : String} {g : Given} (idle : r.pending = .nothing)
    (takes : key ∈ r.scope.keys) (given : r.given.withKey key text = .ok g) :
    r.takeLong (key.name.toList ++ '=' :: text.toList) = .ok { r with given := g } := by
  have known : r.scope.key? key.name = some key := find?_of_injective Key.name_inj takes
  rw [takeLong, splitAtFirst_append_cons key.name_whole (by decide)]
  dsimp only
  rw [String.ofList_toList, known]
  dsimp only
  rw [String.ofList_toList, resolve_of_idle idle]
  change (do return { r with given := ← r.given.withKey key text } : Except Misuse Reader) = _
  rw [given]
  rfl

/-- A flag, whose name no option has. -/
theorem takeLong_flag {flag : Flag} {g : Given} (idle : r.pending = .nothing)
    (takes : flag ∈ r.scope.flags) (given : r.given.withFlag flag = .ok g) :
    r.takeLong flag.name.toList = .ok { r with given := g } := by
  have known : r.scope.flag? flag.name = some flag := find?_of_injective Flag.name_inj takes
  have other : r.scope.key? flag.name = none :=
    List.find?_eq_none.2 fun key _ => by simpa using key.name_ne_name flag
  rw [takeLong, splitAtFirst_of_whole flag.name_whole]
  dsimp only
  rw [String.ofList_toList, other, known]
  dsimp only
  rw [takeFlag, resolve_of_idle idle]
  change (do return { r with given := ← r.given.withFlag flag } : Except Misuse Reader) = _
  rw [given]
  rfl

/-- **A piece is taken from its argument.** -/
theorem take_word {p : Piece} (undashed : r.dashed = false) (idle : r.pending = .nothing)
    (takes : p.subject ∈ r.scope.subjects) (sound : p.IsSound) (lacks : r.given.Lacks p) :
    r.take p.word = .ok { r with given := r.given.having p } := by
  have given := Given.take_spelled sound lacks
  rw [Scope.subjects, List.mem_append, List.mem_map, List.mem_map, Piece.subject] at takes
  rw [Piece.word]
  cases spelled : p.spelled with
  | inl valued =>
    obtain ⟨key, text⟩ := valued
    rw [spelled] at given takes
    have long : ("--" ++ key.name ++ "=" ++ text).toList
        = '-' :: '-' :: (key.name.toList ++ '=' :: text.toList) := by
      rw [String.toList_append, String.toList_append, String.toList_append, List.append_assoc,
        List.append_assoc]
      rfl
    dsimp only
    rw [take_long undashed long (by simp)]
    exact takeLong_valued idle (by simpa using takes) given
  | inr flag =>
    rw [spelled] at given takes
    have long : ("--" ++ flag.name).toList = '-' :: '-' :: flag.name.toList := by
      rw [String.toList_append]
      rfl
    dsimp only
    rw [take_long undashed long flag.name_ne_nil]
    exact takeLong_flag idle (by simpa using takes) given

/-- **A row of pieces** about different things adds them all to what was given. -/
theorem take_words {pieces : List Piece} (undashed : r.dashed = false)
    (idle : r.pending = .nothing) (takes : ∀ p ∈ pieces, p.subject ∈ r.scope.subjects)
    (sound : ∀ p ∈ pieces, p.IsSound) (distinct : (pieces.map Piece.subject).Nodup)
    (lacks : ∀ p ∈ pieces, r.given.Lacks p) :
    (pieces.map Piece.word).foldlM take r
      = .ok { r with given := pieces.foldl Given.having r.given } := by
  induction pieces generalizing r with
  | nil => rfl
  | cons p pieces ih =>
    rw [List.map_cons, List.nodup_cons] at distinct
    rw [List.forall_mem_cons] at takes sound lacks
    rw [List.map_cons, List.foldlM_cons, take_word undashed idle takes.1 sound.1 lacks.1]
    refine ih undashed idle takes.2 sound.2 distinct.2 fun q mem => ?_
    have other : p.subject ≠ q.subject := fun same =>
      distinct.1 (same ▸ List.mem_map_of_mem mem)
    exact Given.lacks_having other (lacks.2 q mem)

end Reader

end Exposition.CommandLine
