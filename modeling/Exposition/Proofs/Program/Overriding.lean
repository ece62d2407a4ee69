import Exposition.Program
import Exposition.Proofs.Command.Unanswered
import Exposition.Proofs.Each

/-!
# Proofs/Program/Overriding — settings on the command line

A setting on the command line takes the place of a variable, which then should not matter.  Nor does
it to a run that comes to its command: up to there two environments that differ in nothing else give
the same (`Twins.outset_eq`), and from there on nobody looks at them.  But the environment has to
make sense as a whole before anything is overridden, so that a variable that makes none has the run
refused even where its value would not be used.

A refusal shows: over a network that nothing comes back from, no command ends like one
(`run_ne_refused`).  So overridden variables remain unseen exactly if the runs are refused alike
(`overridden_unseen_iff`).
-/

namespace Exposition

open Text

/-- **The variables that some overrides take the place of.**  An address does so only if it makes
sense. -/
def Overrides.Covers (o : Overrides) : Variable → Prop
  | .apiUrl => ∃ address, o.apiUrl = some address ∧ checkApiUrl address = .ok ()
  | .logLevel => o.logLevel.isSome
  | .pageSize => o.pageSize.isSome
  | .searchDelay => False
  | .timeout => False

namespace Config

/-- A setting that has a usual value, from the value of its variable. -/
def orUsual {α : Type} (usual : α) (read : String → Except SettingError α) :
    Option String → Except SettingError α
  | some s => read s
  | none => .ok usual

theorem ofVariables_eq (lookup : Variable → Option String) : ofVariables lookup = (do
    checkApiUrl ((lookup .apiUrl).getD "http://localhost:8000")
    let logLevel ← logLevelOf ((lookup .logLevel).getD "WARN")
    let pageSize ← orUsual usualPageSize pageSizeOf (lookup .pageSize)
    let searchDelay ← orUsual 300 (number maxLong .searchDelay) (lookup .searchDelay)
    let timeout ← orUsual none (fun s => some <$> number maxLong .timeout s) (lookup .timeout)
    return {
      apiUrl := (lookup .apiUrl).getD "http://localhost:8000"
      logLevel, pageSize, searchDelay, timeout }) := by
  rw [ofVariables]
  cases lookup .pageSize with
  | _ => cases lookup .searchDelay with
    | _ => cases lookup .timeout with
      | _ => rfl

/-- **Every setting comes from its own variable**, and from nothing else. -/
structure IsFrom (lookup : Variable → Option String) (c : Config) : Prop where
  apiUrl : (lookup .apiUrl).getD "http://localhost:8000" = c.apiUrl
  logLevel : logLevelOf ((lookup .logLevel).getD "WARN") = .ok c.logLevel
  pageSize : orUsual usualPageSize pageSizeOf (lookup .pageSize) = .ok c.pageSize
  searchDelay : orUsual 300 (number maxLong .searchDelay) (lookup .searchDelay) = .ok c.searchDelay
  timeout : orUsual none (fun s => some <$> number maxLong .timeout s) (lookup .timeout)
    = .ok c.timeout

theorem isFrom_of_ofVariables {lookup : Variable → Option String} {c : Config}
    (reads : ofVariables lookup = .ok c) : IsFrom lookup c := by
  rw [ofVariables_eq] at reads
  obtain ⟨_, -, reads⟩ := exists_of_bind_eq_ok reads
  obtain ⟨logLevel, log, reads⟩ := exists_of_bind_eq_ok reads
  obtain ⟨pageSize, page, reads⟩ := exists_of_bind_eq_ok reads
  obtain ⟨searchDelay, delay, reads⟩ := exists_of_bind_eq_ok reads
  obtain ⟨timeout, limit, reads⟩ := exists_of_bind_eq_ok reads
  obtain rfl := Except.ok.inj reads
  exact ⟨rfl, log, page, delay, limit⟩

end Config

theorem eq_of_eq_ok {ε α : Type} {x y : Except ε α} {a b : α} (gives : x = .ok a)
    (gives' : y = .ok b) (same : x = y) : a = b :=
  Except.ok.inj (gives.symm.trans (same.trans gives'))

/-- **Settings that are overridden do not matter.** -/
theorem Overrides.over_congr {o : Overrides} {lookup lookup' : Variable → Option String}
    {c c' : Config} (reads : Config.IsFrom lookup c) (reads' : Config.IsFrom lookup' c')
    (agree : ∀ v, ¬ o.Covers v → lookup v = lookup' v) : o.over c = o.over c' := by
  have logLevel : o.logLevel.getD c.logLevel = o.logLevel.getD c'.logLevel := by
    cases given : o.logLevel with
    | some level => rfl
    | none =>
      exact eq_of_eq_ok reads.logLevel reads'.logLevel
        (by rw [agree .logLevel (by simp [Covers, given])])
  have pageSize : o.pageSize.getD c.pageSize = o.pageSize.getD c'.pageSize := by
    cases given : o.pageSize with
    | some size => rfl
    | none =>
      exact eq_of_eq_ok reads.pageSize reads'.pageSize
        (by rw [agree .pageSize (by simp [Covers, given])])
  have searchDelay : c.searchDelay = c'.searchDelay :=
    eq_of_eq_ok reads.searchDelay reads'.searchDelay (by rw [agree .searchDelay id])
  have timeout : c.timeout = c'.timeout :=
    eq_of_eq_ok reads.timeout reads'.timeout (by rw [agree .timeout id])
  cases given : o.apiUrl with
  | none =>
    have apiUrl : c.apiUrl = c'.apiUrl := by
      rw [← reads.apiUrl, ← reads'.apiUrl, agree .apiUrl (by simp [Covers, given])]
    simp only [Overrides.over, given, logLevel, pageSize, searchDelay, timeout, apiUrl]
  | some address =>
    cases checked : checkApiUrl address with
    | error e =>
      simp only [Overrides.over, given, checked]
      rfl
    | ok u =>
      simp only [Overrides.over, given, logLevel, pageSize, searchDelay, timeout, Option.getD_some]

namespace Program

/-! ## Refusals -/

/-- The end of a run whose settings make no sense. -/
def refused (e : SettingError) : Ending := ⟨1, "", failureReport (.config e)⟩

/-- **How far a run comes before its command**: to its end, or to the command with the settings and
the URL of the service. -/
def outset (i : Invocation) : Except Ending (Command × Config × Url) :=
  match CommandLine.read i.arguments with
  | .error misuse => .error (endOfMisuse misuse)
  | .ok line =>
    match settings i line.overrides with
    | .error e => .error (refused e)
    | .ok c =>
      match Url.parse (Remote.slashed c.apiUrl) with
      | .error e => .error (refused (.badUrl e))
      | .ok base => .ok (line.command, c, base)

/-- **How a run is refused**: its end, if it does not come to its command. -/
def refusal (i : Invocation) : Option Ending :=
  match outset i with
  | .error ending => some ending
  | .ok _ => none

theorem refusal_eq_some_iff {i : Invocation} {ending : Ending} :
    refusal i = some ending ↔ outset i = .error ending := by
  rw [refusal]
  cases outset i with
  | error ending => simp
  | ok rest => simp

theorem refusal_eq_none_iff {i : Invocation} : refusal i = none ↔ ∃ rest, outset i = .ok rest := by
  rw [refusal]
  cases outset i with
  | error ending => simp
  | ok rest => simp

/-- What is not refused has a command line, and an environment that makes sense. -/
theorem of_accepted {i : Invocation} (accepted : refusal i = none) :
    ∃ line c, CommandLine.read i.arguments = .ok line ∧ (environment i).config = .ok c := by
  obtain ⟨rest, comes⟩ := refusal_eq_none_iff.1 accepted
  rw [outset] at comes
  cases read : CommandLine.read i.arguments with
  | error misuse => simp [read] at comes
  | ok line =>
    cases admitted : settings i line.overrides with
    | error e => simp [read, admitted] at comes
    | ok c =>
      obtain ⟨c', config, -⟩ := exists_of_bind_eq_ok admitted
      exact ⟨line, c', rfl, config⟩

/-- Where the command line can be read, a refusal is one of settings. -/
theorem exists_refused {i : Invocation} {line : CommandLine} {ending : Ending}
    (read : CommandLine.read i.arguments = .ok line) (ends : refusal i = some ending) :
    ∃ e, ending = refused e := by
  rw [refusal_eq_some_iff, outset, read] at ends
  dsimp only at ends
  cases admitted : settings i line.overrides with
  | error e =>
    rw [admitted] at ends
    exact ⟨e, (Except.error.inj ends).symm⟩
  | ok c =>
    rw [admitted] at ends
    dsimp only at ends
    cases parsed : Url.parse (Remote.slashed c.apiUrl) with
    | error e =>
      rw [parsed] at ends
      exact ⟨.badUrl e, (Except.error.inj ends).symm⟩
    | ok base =>
      rw [parsed] at ends
      cases ends

section Run

variable {ν : Type} [Http.Network ν]

/-- A run after its outset. -/
def proceed (i : Invocation) (network : ν) : Except Ending (Command × Config × Url) → Ending × ν
  | .error ending => (ending, network)
  | .ok (command, c, base) =>
    let start : Session (Remote ν) Unit := { service := ⟨base, network⟩, state := () }
    let (result, s) := command.run (surroundings i c) start
    (endOfCommand result s, s.service.network)

/-- **A run that is refused does nothing else**, and any other is the run of its command. -/
theorem run_eq (i : Invocation) (network : ν) : run i network = proceed i network (outset i) := by
  rw [run, outset]
  cases CommandLine.read i.arguments with
  | error misuse => rfl
  | ok line =>
    dsimp only
    cases settings i line.overrides with
    | error e => rfl
    | ok c =>
      dsimp only
      rw [runCommand, Remote.connect]
      cases Url.parse (Remote.slashed c.apiUrl) with
      | error e => rfl
      | ok base => rfl

theorem run_of_refusal {i : Invocation} {ending : Ending} (ends : refusal i = some ending)
    (network : ν) : run i network = (ending, network) := by
  rw [run_eq, refusal_eq_some_iff.1 ends, proceed]

end Run

/-! ## Over a network that nothing comes back from -/

/-- Nothing comes of an exchange. -/
theorem exchange_offline (request : Http.Request) (network : Http.Offline) :
    ∃ failure, Http.exchange request network = (.error failure, network) := by
  rw [Http.exchange, Http.follow]
  split
  · exact ⟨_, rfl⟩
  · exact ⟨_, rfl⟩

/-- Every request fails. -/
instance : Mute (Remote Http.Offline) where
  fails r s := by
    cases sends : Remote.outgoing s.base r with
    | error e =>
      refine ⟨e, s, ?_⟩
      simp only [Service.answer, sends]
    | ok request =>
      obtain ⟨failure, ends⟩ := exchange_offline request s.network
      refine ⟨.transport failure.message, s, ?_⟩
      simp only [Service.answer, sends, ends]
      rfl

/-- No other report begins like that of a setting. -/
theorem head?_report {error : CommandError} (other : ∀ e, error ≠ .config e) :
    ∃ c, error.report.toList.head? = some c ∧ c ≠ 'C' := by
  cases error with
  | config e => exact absurd rfl (other e)
  | service e => exact ⟨'P', head?_append (head?_append rfl), by decide⟩
  | input e => exact ⟨'I', head?_append (head?_append rfl), by decide⟩
  | refused r => exact ⟨'I', head?_append (head?_append rfl), by decide⟩

theorem head?_report_config (e : SettingError) :
    (CommandError.config e).report.toList.head? = some 'C' :=
  head?_append (head?_append (head?_append (head?_append rfl)))

/-- A notification begins with the sign of its tone. -/
theorem head?_line (n : Notification) : ∃ c, n.line.toList.head? = some c ∧ c ≠ 'E' := by
  obtain ⟨c, begins, ne⟩ : ∃ c, n.tone.marker.toList.head? = some c ∧ c ≠ 'E' := by
    cases n.tone with
    | success => exact ⟨'✔', by decide, by decide⟩
    | error => exact ⟨'✖', by decide, by decide⟩
    | warning => exact ⟨'⚠', by decide, by decide⟩
    | info => exact ⟨'ℹ', by decide, by decide⟩
  exact ⟨c, head?_append (head?_append begins), ne⟩

theorem toList_failureReport (error : CommandError) :
    (failureReport error).toList = "Error: ".toList ++ (error.report.toList ++ ['\n']) := by
  rw [failureReport, String.toList_append, String.toList_append, List.append_assoc]
  rfl

section Telltale

variable {σ κ : Type} {s : Session σ κ}

theorem toList_output : s.output.toList = s.transcript.flatMap (·.output.toList) := by
  rw [Session.output, String.toList_join, List.flatMap_map]

theorem toList_complaints : s.complaints.toList = s.transcript.flatMap (·.complaint.toList) := by
  rw [Session.complaints, String.toList_join, List.flatMap_map]

theorem flatMap_of_silent {events : List Event} (silent : ∀ e ∈ events, e.IsSilent) :
    events.flatMap (·.complaint.toList) = [] := by
  refine List.flatMap_eq_nil_iff.2 fun e mem => ?_
  rw [silent e mem]
  rfl

/-- **What a telltale ends in is no refusal.** -/
theorem ne_refused_of_telltale {result : Except CommandError Unit}
    (telltale : Telltale result s.transcript) (e : SettingError) :
    endOfCommand result s ≠ refused e := fun alike => by
  cases result with
  | ok => exact absurd (congrArg Ending.exitCode alike) (by decide : (0 : Nat) ≠ 1)
  | error error =>
    obtain ⟨-, output, complaints⟩ := Ending.mk.inj alike
    have output := congrArg String.toList output
    have complaints := congrArg String.toList complaints
    rw [toList_output] at output
    rw [String.toList_append, toList_complaints, toList_failureReport,
      toList_failureReport] at complaints
    generalize s.transcript = events at telltale output complaints
    cases telltale with
    | shown begins mem =>
      have empty := List.flatMap_eq_nil_iff.1 output _ mem
      rw [Event.output] at empty
      rw [empty] at begins
      cases begins
    | told silent n after =>
      obtain ⟨c, begins, ne⟩ := head?_line n
      have begins : (n.line ++ "\n").toList.head? = some c := head?_append begins
      have head := congrArg List.head? complaints
      rw [List.flatMap_append, flatMap_of_silent silent, List.nil_append, List.flatMap_cons,
        Event.complaint, List.append_assoc, List.head?_append, begins] at head
      exact ne (Option.some.inj head)
    | failed other silent =>
      obtain ⟨c, begins, ne⟩ := head?_report other
      rw [flatMap_of_silent silent, List.nil_append, List.append_cancel_left_eq] at complaints
      have head := congrArg List.head? complaints
      rw [List.head?_append, begins, List.head?_append, head?_report_config] at head
      exact ne (Option.some.inj head)

end Telltale

/-- **No command ends like a refusal** over a network that nothing comes back from. -/
theorem run_ne_refused {i : Invocation} (accepted : refusal i = none) (e : SettingError) :
    (run i Http.Offline.mk).1 ≠ refused e := by
  obtain ⟨⟨command, c, base⟩, comes⟩ := refusal_eq_none_iff.1 accepted
  rw [run_eq, comes]
  exact ne_refused_of_telltale (Command.tells_run rfl (surroundings i c) command) e

/-! ## Two runs -/

/-- **Two runs that only overridden variables may tell apart.**  The environments are those that the
settings are read from, with the variables of a file if there is one. -/
structure Twins (i i' : Invocation) : Prop where
  arguments : i.arguments = i'.arguments
  input : i.input = i'.input
  file : i.file = i'.file
  agree : ∀ line, CommandLine.read i.arguments = .ok line → ∀ v, ¬ line.overrides.Covers v →
    (environment i).get? v.name = (environment i').get? v.name

/-- **The runs are the same** over every network: the same requests go out, and the same comes of
them. -/
def Same (i i' : Invocation) : Prop :=
  ∀ (ν : Type) [Http.Network ν] (network : ν), run i network = run i' network

namespace Twins

variable {i i' : Invocation} (twins : Twins i i')
include twins

/-- A run does not look at the environment after its outset. -/
theorem proceed_eq {ν : Type} [Http.Network ν] (network : ν)
    (outset : Except Ending (Command × Config × Url)) :
    proceed i network outset = proceed i' network outset := by
  have around : surroundings i = surroundings i' := by
    funext c
    rw [surroundings, surroundings, twins.input, twins.file]
  cases outset with
  | error ending => rfl
  | ok rest => rw [proceed, proceed, around]

/-- **Where both environments make sense, overridden variables are not even seen.** -/
theorem outset_eq {c c' : Config} (reads : (environment i).config = .ok c)
    (reads' : (environment i').config = .ok c') : outset i = outset i' := by
  rw [outset, outset, ← twins.arguments]
  cases read : CommandLine.read i.arguments with
  | error misuse => rfl
  | ok line =>
    have same : settings i line.overrides = settings i' line.overrides := by
      rw [settings, settings, reads, reads']
      exact Overrides.over_congr (Config.isFrom_of_ofVariables reads)
        (Config.isFrom_of_ofVariables reads') (twins.agree line read)
    dsimp only
    rw [same]

theorem same_of_outset_eq (alike : outset i = outset i') : Same i i' := fun ν _ network => by
  rw [run_eq, run_eq, alike, twins.proceed_eq]

/-- Runs that are refused alike are the same, and so are runs that are not refused. -/
theorem same_of_refusal_eq (alike : refusal i = refusal i') : Same i i' := by
  cases ends : refusal i with
  | some ending =>
    intro ν _ network
    rw [run_of_refusal ends, run_of_refusal (alike ▸ ends)]
  | none =>
    obtain ⟨-, _, -, reads⟩ := of_accepted ends
    obtain ⟨-, _, -, reads'⟩ := of_accepted (alike ▸ ends)
    exact twins.same_of_outset_eq (twins.outset_eq reads reads')

end Twins

/-- A refusal shows over a network that nothing comes back from. -/
theorem accepted_of_same {i i' : Invocation} (arguments : i.arguments = i'.arguments)
    (same : Same i i') (accepted : refusal i = none) : refusal i' = none := by
  cases ends : refusal i' with
  | none => rfl
  | some ending =>
    obtain ⟨line, -, read, -⟩ := of_accepted accepted
    obtain ⟨e, rfl⟩ := exists_refused (arguments ▸ read) ends
    refine absurd ?_ (run_ne_refused accepted e)
    rw [same, run_of_refusal ends]

theorem refusal_eq_of_same {i i' : Invocation} (arguments : i.arguments = i'.arguments)
    (same : Same i i') : refusal i = refusal i' := by
  cases ends : refusal i with
  | none => exact (accepted_of_same arguments same ends).symm
  | some ending =>
    cases ends' : refusal i' with
    | none =>
      have accepted := accepted_of_same arguments.symm (fun ν _ n => (same ν n).symm) ends'
      exact absurd (ends.symm.trans accepted) (by simp)
    | some ending' =>
      have alike := same Http.Offline Http.Offline.mk
      rw [run_of_refusal ends, run_of_refusal ends'] at alike
      exact congrArg some (Prod.mk.inj alike).1

/-- **Overridden variables remain unseen**: they do not matter where both environments make sense,
and in general they do not matter exactly if the runs are refused alike, or not at all. -/
theorem overridden_unseen_iff {i i' : Invocation} (twins : Twins i i') :
    ((environment i).config.isOk → (environment i').config.isOk → Same i i')
      ∧ (Same i i' ↔ refusal i = refusal i') := by
  refine ⟨fun sensible sensible' => ?_,
    refusal_eq_of_same twins.arguments, twins.same_of_refusal_eq⟩
  cases reads : (environment i).config with
  | error e => simp [reads, Except.isOk, Except.toBool] at sensible
  | ok c =>
    cases reads' : (environment i').config with
    | error e => simp [reads', Except.isOk, Except.toBool] at sensible'
    | ok c' => exact twins.same_of_outset_eq (twins.outset_eq reads reads')

/-- A command line that gives the page size, beside some environment. -/
def paged (environment : Environment) : Invocation where
  arguments := ["--page-size=5", "stats"]
  environment

theorem read_paged : CommandLine.read ["--page-size=5", "stats"]
    = .ok { command := .stats, overrides := { pageSize := some 5 } } := by
  decide +kernel

theorem twins_paged (size : String) : Twins (paged [("HISTORY_PAGE_SIZE", size)]) (paged []) where
  arguments := rfl
  input := rfl
  file := rfl
  agree line read v uncovered := by
    obtain rfl := Except.ok.inj (read_paged.symm.trans read)
    cases v with
    | pageSize => exact absurd rfl uncovered
    | _ => rfl

theorem overridden_unseen_of_page_size : Twins (paged [("HISTORY_PAGE_SIZE", "7")]) (paged [])
    ∧ Same (paged [("HISTORY_PAGE_SIZE", "7")]) (paged []) :=
  ⟨twins_paged "7", (overridden_unseen_iff (twins_paged "7")).1 (by decide +kernel)
    (by decide +kernel)⟩

/-- **An overridden variable is seen**: a page size of 0 in the environment has the run refused,
though the command line gives another. -/
theorem overridden_seen : Twins (paged [("HISTORY_PAGE_SIZE", "0")]) (paged [])
    ∧ ¬ Same (paged [("HISTORY_PAGE_SIZE", "0")]) (paged []) := by
  refine ⟨twins_paged "0", fun same => ?_⟩
  have alike : refusal (paged [("HISTORY_PAGE_SIZE", "0")]) = refusal (paged []) :=
    refusal_eq_of_same rfl same
  exact absurd alike (by decide +kernel)

end Program

end Exposition
