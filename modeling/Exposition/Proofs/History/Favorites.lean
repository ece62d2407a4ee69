import Exposition.Proofs.Archive
import Exposition.Proofs.History.Course
import Mathlib.Logic.Function.Iterate

/-!
# Proofs/History/Favorites — setting and toggling favorite flags

At an archive that tells its records apart, setting a favorite flag changes the flag of one record
(`Store.updateFirst_eq_map`) and comes back as the same change to the open record, which is set at
once, and to the records that are loaded again.  Setting it once more finds everything as it is
(`received_again`).

Toggling takes the flag of the open record for the one to turn over.  That is no mistake: whether
the load after it fails, leaves the record out or brings it along, the open record has the flag that
the archive has (`Marked.of_toggle`), and so they stay together however often it is toggled
(`favorites_settle`).
-/

namespace Exposition

/-- A record with its favorite flag set, if it is the one in question. -/
def Record.flagged (id : Int) (isFavorite : Bool) (r : Record) : Record :=
  if r.id = id then { r with isFavorite } else r

section Flagged

variable {id : Int} {isFavorite : Bool}

theorem Record.id_flagged (r : Record) : (r.flagged id isFavorite).id = r.id := by
  rw [flagged]
  split
  · rfl
  · rfl

theorem Record.isFavorite_flagged {r : Record} (same : r.id = id) :
    (r.flagged id isFavorite).isFavorite = isFavorite := by
  rw [flagged, if_pos same]

theorem Record.flagged_flagged (r : Record) :
    (r.flagged id isFavorite).flagged id isFavorite = r.flagged id isFavorite := by
  by_cases same : r.id = id
  · rw [flagged, if_pos (by rw [id_flagged, same]), flagged, if_pos same]
  · rw [flagged, if_neg (by rwa [id_flagged])]

/-- A flag leaves the numbers of the records alone. -/
theorem map_id_flagged (records : List Record) :
    (records.map (Record.flagged id isFavorite)).map (·.id) = records.map (·.id) := by
  rw [List.map_map]
  exact List.map_congr_left fun r _ => r.id_flagged

/-- Where no record has the number, none is flagged. -/
theorem map_flagged_of_missing {records : List Record} (missing : id ∉ records.map (·.id)) :
    records.map (Record.flagged id isFavorite) = records := by
  have other : ∀ r ∈ records, r.flagged id isFavorite = r := fun r mem =>
    if_neg fun same => missing (List.mem_map.2 ⟨r, mem, same⟩)
  exact (List.map_congr_left other).trans (List.map_id' records)

/-- **Where numbers are distinct, a flag is set for one record and no other.** -/
theorem Store.updateFirst_eq_map {records : List Record}
    (distinct : (records.map (·.id)).Nodup) :
    Store.updateFirst id (fun r => { r with isFavorite }) records
      = records.map (Record.flagged id isFavorite) := by
  induction records with
  | nil => rfl
  | cons r rs ih =>
    rw [List.map_cons, List.nodup_cons] at distinct
    rw [Store.updateFirst, List.map_cons, Record.flagged]
    by_cases same : r.id = id
    · rw [if_pos same, if_pos same, map_flagged_of_missing (same ▸ distinct.1)]
    · rw [if_neg same, if_neg same, ih distinct.2]

end Flagged

namespace History

/-! ## Setting a flag twice -/

section Twice

variable {id : Int} {isFavorite : Bool} {records : List Record} {selected : Option Record}

/-- Refreshing the open record from the same records once more does nothing. -/
theorem refreshed_refreshed (records : List Record) (selected : Option Record) :
    refreshed records (refreshed records selected) = refreshed records selected := by
  cases selected with
  | none => rfl
  | some r =>
    cases found : records.find? (·.id == r.id) with
    | none => simp [refreshed, found]
    | some fresh =>
      have same : fresh.id = r.id := by simpa using List.find?_some found
      simp [refreshed, found, same]

/-- A refreshed record is the same one, as it has come or as it was. -/
theorem refreshed_some (records : List Record) (r : Record) :
    ∃ fresh, refreshed records (some r) = some fresh ∧ fresh.id = r.id
      ∧ (fresh ∈ records ∨ fresh = r) := by
  cases found : records.find? (·.id == r.id) with
  | none => exact ⟨r, by simp [refreshed, found], rfl, .inr rfl⟩
  | some fresh =>
    have same : fresh.id = r.id := by simpa using List.find?_some found
    exact ⟨fresh, by simp [refreshed, found], same, .inl (List.mem_of_find?_eq_some found)⟩

/-- **Records with the flag set, and an open record that has it set, need it no more.** -/
theorem flagged_refreshed (flagged : ∀ r ∈ records, r.flagged id isFavorite = r)
    (marked : ∀ r, selected = some r → r.flagged id isFavorite = r) :
    (refreshed records selected).map (Record.flagged id isFavorite)
      = refreshed records selected := by
  cases selected with
  | none => rfl
  | some r =>
    obtain ⟨fresh, opened, -, mem | rfl⟩ := refreshed_some records r
    · rw [opened, Option.map_some, flagged fresh mem]
    · rw [opened, Option.map_some, marked fresh rfl]

/-- **Marking a record that is marked, and receiving the same page again**, takes another ticket and
changes nothing else. -/
theorem received_again (h : History) {slice : Slice}
    (flagged : ∀ r ∈ slice.records, r.flagged id isFavorite = r) :
    let once := (h.mark id isFavorite).received (.ok slice)
    (once.mark id isFavorite).received (.ok slice) = { once with issued := once.issued + 1 } := by
  intro once
  have open' : once.selected
      = refreshed slice.records (h.selected.map (Record.flagged id isFavorite)) := by
    rw [show once = _ from received_ok ..]
    rfl
  have settled : once.selected.map (Record.flagged id isFavorite) = once.selected := by
    rw [open']
    refine flagged_refreshed flagged fun r was => ?_
    obtain ⟨old, -, rfl⟩ := Option.map_eq_some_iff.1 was
    exact old.flagged_flagged
  have same : once.mark id isFavorite = once := by
    change { once with selected := once.selected.map (Record.flagged id isFavorite) } = once
    rw [settled]
  have fresh : refreshed slice.records once.selected = once.selected := by
    rw [open', refreshed_refreshed]
  rw [same, received_ok, fresh, show once = _ from received_ok ..]
  rfl

end Twice

variable {σ : Type} [Archive σ]

/-- The records of a page are among those of the archive. -/
theorem mem_records_of_page {service : σ} {q : Query} {r : Record}
    (mem : r ∈ (Archive.page service q).records) : r ∈ Archive.records service :=
  (List.mem_filter.1 (List.mem_of_mem_drop (List.mem_of_mem_take mem))).1

/-- **A flag that is set at an archive**, where numbers are distinct. -/
theorem records_of_marked {service service' : σ} {id : Int} {isFavorite : Bool} {message : String}
    (distinct : ((Archive.records service).map (·.id)).Nodup)
    (answered : Service.answer (.mark id isFavorite) service = (.ok message, service')) :
    Archive.records service' = (Archive.records service).map (Record.flagged id isFavorite) :=
  (Archive.mark_ok answered).trans (Store.updateFirst_eq_map distinct)

/-- **Where no request fails, a flag is set** and the page is shown as it then is. -/
theorem markFavorite_shows {s : Session σ History} {id : Int} {isFavorite : Bool}
    (distinct : ((Archive.records s.service).map (·.id)).Nodup)
    (smooth : Smooth (s.since (markFavorite id isFavorite s).2)) :
    ∃ service events, (markFavorite id isFavorite s).2 = s.after service
        ((s.state.mark id isFavorite).received (.ok (Archive.page service s.state.query))) events
      ∧ Archive.records service
        = (Archive.records s.service).map (Record.flagged id isFavorite) := by
  obtain ⟨message, service, slice, service', answered, listed, events, done⟩ :=
    markFavorite_smooth smooth
  obtain ⟨rfl, unchanged⟩ := Archive.of_listed listed
  refine ⟨service', events, ?_, unchanged.trans (records_of_marked distinct answered)⟩
  rw [done, Archive.page_congr unchanged]

/-- **Setting a flag twice** does what setting it once does, but for one more ticket. -/
theorem markFavorite_twice {s : Session σ History} {id : Int} {isFavorite : Bool}
    (distinct : ((Archive.records s.service).map (·.id)).Nodup)
    (first : Smooth (s.since (markFavorite id isFavorite s).2))
    (second : Smooth ((markFavorite id isFavorite s).2.since
      (markFavorite id isFavorite (markFavorite id isFavorite s).2).2)) :
    let once := (markFavorite id isFavorite s).2
    let twice := (markFavorite id isFavorite once).2
    Archive.records once.service
        = (Archive.records s.service).map (Record.flagged id isFavorite)
      ∧ Archive.records twice.service = Archive.records once.service
      ∧ twice.state = { once.state with issued := once.state.issued + 1 } := by
  intro once twice
  obtain ⟨service, events, honce, records⟩ := markFavorite_shows distinct first
  have distinct' : ((Archive.records once.service).map (·.id)).Nodup := by
    rw [show once = _ from honce, Session.after_service, records, map_id_flagged]
    exact distinct
  obtain ⟨service', events', htwice, records'⟩ := markFavorite_shows distinct' second
  have flagged : ∀ r ∈ Archive.records service, r.flagged id isFavorite = r := by
    rw [records, List.forall_mem_map]
    exact fun r _ => r.flagged_flagged
  have same : Archive.records service' = Archive.records service := by
    rw [records', show once = _ from honce, Session.after_service]
    exact (List.map_congr_left flagged).trans (List.map_id' _)
  have query : once.state.query = s.state.query := by
    rw [show once = _ from honce, Session.after_state, received_query]
    rfl
  refine ⟨?_, ?_, ?_⟩
  · rw [show once = _ from honce, Session.after_service, records]
  · rw [show twice = _ from htwice, show once = _ from honce]
    exact same
  · rw [show twice = _ from htwice, Session.after_state, query, Archive.page_congr same,
      show once = _ from honce, Session.after_state]
    exact received_again _ fun r mem => flagged r (mem_records_of_page mem)

/-! ## Toggling the open record -/

/-- A request to set a favorite flag that was refused. -/
def isRefusal : Event → Bool
  | .asked (.mark _ _) (.error _) => true
  | _ => false

/-- **Every favorite flag that was to be set has been set.** -/
def Acknowledged (events : List Event) : Prop := ∀ e ∈ events, isRefusal e = false

instance (events : List Event) : Decidable (Acknowledged events) :=
  inferInstanceAs (Decidable (∀ e ∈ events, isRefusal e = false))

/-- The session after the favorite flag of the open record was turned over so many times. -/
def toggles (k : Nat) (s : Session σ History) : Session σ History :=
  match k with
  | 0 => s
  | k + 1 => (toggleOpen (toggles k s)).2

/-- **The open record and the record of the archive have one flag.** -/
structure Marked (s : Session σ History) (id : Int) (isFavorite : Bool) : Prop where
  distinct : ((Archive.records s.service).map (·.id)).Nodup
  opened : ∃ r, s.state.selected = some r ∧ r.id = id ∧ r.isFavorite = isFavorite
  kept : ∃ r ∈ Archive.records s.service, r.id = id
  agrees : ∀ r ∈ Archive.records s.service, r.id = id → r.isFavorite = isFavorite

/-- **A toggle that is acknowledged turns both flags over**, whatever becomes of the next load. -/
theorem Marked.of_toggle {s : Session σ History} {r : Record}
    (distinct : ((Archive.records s.service).map (·.id)).Nodup)
    (opened : s.state.selected = some r) (kept : ∃ r' ∈ Archive.records s.service, r'.id = r.id)
    (acknowledged : Acknowledged (s.since (toggleOpen s).2)) :
    Marked (toggleOpen s).2 r.id (!r.isFavorite) := by
  rw [toggleOpen_of_some opened] at acknowledged ⊢
  rcases answered : Service.answer (.mark r.id (!r.isFavorite)) s.service
    with ⟨e | message, service⟩
  · rw [markFavorite_error answered, Session.since_after] at acknowledged
    exact absurd (acknowledged _ (List.mem_cons_self ..)) (by simp [isRefusal])
  · rcases listed : Service.answer (.list s.state.query) service with ⟨reply, service'⟩
    have records : Archive.records service'
        = (Archive.records s.service).map (Record.flagged r.id (!r.isFavorite)) := by
      have unchanged := Archive.unchanged (r := .list s.state.query) rfl service
      rw [listed] at unchanged
      exact unchanged.trans (records_of_marked distinct answered)
    have agrees : ∀ r' ∈ Archive.records service',
        r'.id = r.id → r'.isFavorite = !r.isFavorite := by
      rw [records, List.forall_mem_map]
      exact fun r' _ same => Record.isFavorite_flagged (r'.id_flagged ▸ same)
    have turned : (s.state.mark r.id (!r.isFavorite)).selected
        = some (r.flagged r.id (!r.isFavorite)) := by
      change s.state.selected.map _ = _
      rw [opened]
      rfl
    rw [markFavorite_apply answered listed]
    refine ⟨?_, ?_, ?_, agrees⟩
    · rw [Session.after_service, records, map_id_flagged]
      exact distinct
    · rw [Session.after_state]
      cases reply with
      | error e =>
        rw [received_error]
        exact ⟨_, turned, r.id_flagged, Record.isFavorite_flagged rfl⟩
      | ok slice =>
        obtain ⟨rfl, -⟩ := Archive.of_listed listed
        obtain ⟨fresh, refreshes, same, mem | rfl⟩ := refreshed_some
          (Archive.page service s.state.query).records (r.flagged r.id (!r.isFavorite))
        · have numbered : fresh.id = r.id := same.trans r.id_flagged
          refine ⟨fresh, ?_, numbered, agrees fresh ?_ numbered⟩
          · rw [received_ok, turned]
            exact refreshes
          · rw [(Archive.of_listed listed).2]
            exact mem_records_of_page mem
        · refine ⟨_, ?_, r.id_flagged, Record.isFavorite_flagged rfl⟩
          rw [received_ok, turned]
          exact refreshes
    · obtain ⟨r', mem, same⟩ := kept
      rw [Session.after_service, records]
      exact ⟨_, List.mem_map_of_mem mem, r'.id_flagged.trans same⟩

/-- **Toggling keeps the flags together**: after every toggle that is acknowledged, both are what
they were before, turned over once more. -/
theorem Marked.toggled {s : Session σ History} {r : Record}
    (distinct : ((Archive.records s.service).map (·.id)).Nodup)
    (opened : s.state.selected = some r) (kept : ∃ r' ∈ Archive.records s.service, r'.id = r.id)
    (k : Nat) (acknowledged : ∀ j ≤ k, Acknowledged ((toggles j s).since (toggles (j + 1) s))) :
    Marked (toggles (k + 1) s) r.id (not^[k + 1] r.isFavorite) := by
  induction k with
  | zero => exact .of_toggle distinct opened kept (acknowledged 0 (Nat.le_refl 0))
  | succ k ih =>
    have marked := ih fun j le => acknowledged j (Nat.le_succ_of_le le)
    obtain ⟨r', opened', same, flag⟩ := marked.opened
    have turned := Marked.of_toggle marked.distinct opened' (same ▸ marked.kept)
      (acknowledged (k + 1) (Nat.le_refl _))
    rw [same, flag, ← Function.iterate_succ_apply' not] at turned
    exact turned

/-- **Favorite flags settle.**  At an archive whose records have distinct numbers, whatever state
the history is in: a flag that is set twice without a failure leaves the records of the archive, no
other of which has changed, and the history as they are after the first time, but for the number of
the last ticket.  And if a record of the archive is open, then after any number of toggles that are
acknowledged its flag and that of the record in the archive are what the flag of the open record
was, turned over as often, whether or not the loads after them fail and whatever they bring. -/
theorem favorites_settle (s : Session σ History)
    (distinct : ((Archive.records s.service).map (·.id)).Nodup) :
    (∀ id isFavorite,
      let once := (markFavorite id isFavorite s).2
      let twice := (markFavorite id isFavorite once).2
      Smooth (s.since once) → Smooth (once.since twice) →
        Archive.records once.service
            = (Archive.records s.service).map (Record.flagged id isFavorite)
          ∧ Archive.records twice.service = Archive.records once.service
          ∧ twice.state = { once.state with issued := once.state.issued + 1 })
    ∧ ∀ r, s.state.selected = some r → (∃ kept ∈ Archive.records s.service, kept.id = r.id) →
      ∀ k, 1 ≤ k → (∀ j < k, Acknowledged ((toggles j s).since (toggles (j + 1) s))) →
        (∃ now, (toggles k s).state.selected = some now ∧ now.id = r.id
          ∧ now.isFavorite = not^[k] r.isFavorite)
        ∧ (∃ kept ∈ Archive.records (toggles k s).service, kept.id = r.id)
        ∧ ∀ kept ∈ Archive.records (toggles k s).service, kept.id = r.id →
          kept.isFavorite = not^[k] r.isFavorite := by
  refine ⟨fun id isFavorite first second => markFavorite_twice distinct first second,
    fun r opened kept k some acknowledged => ?_⟩
  obtain ⟨k, rfl⟩ := Nat.exists_eq_succ_of_ne_zero (Nat.ne_of_gt some)
  have marked := Marked.toggled distinct opened kept k fun j le =>
    acknowledged j (Nat.lt_succ_of_le le)
  exact ⟨marked.opened, marked.kept, marked.agrees⟩

/-! An open favorite among favorites: it is left out once it is none, comes back, and then the load
fails. -/

/-- **A store that does not always list** its records. -/
structure Faltering where
  store : Store
  /-- Which of the next lists fail. -/
  fails : List Bool

/-- It does all else as a store does. -/
instance : Service Faltering where
  answer r s :=
    match r with
    | .list q =>
      (if s.fails.headD false then .error (.transport "offline") else .ok (s.store.page q),
        { s with fails := s.fails.tail })
    | r => ((s.store.reply r).1, { s with store := (s.store.reply r).2 })

instance : Archive Faltering where
  records s := s.store.records
  admits := Filters.admits
  list_ok {s s' q slice} answered := by
    have given := (Prod.mk.inj answered).1
    split at given
    · cases given
    · exact (Except.ok.inj given).symm
  mark_ok {s s' id isFavorite message} answered := by
    obtain ⟨given, rfl⟩ := Prod.mk.inj answered
    exact Archive.mark_ok (σ := Store) (Prod.ext given rfl)
  delete_ok {s s' id} answered := by
    obtain ⟨given, rfl⟩ := Prod.mk.inj answered
    exact Archive.delete_ok (σ := Store) (Prod.ext given rfl)
  unchanged {r} reads s := by
    cases r with
    | list q => rfl
    | _ => exact Archive.unchanged (σ := Store) reads s.store

/-- A history of favorites with the second of two favorites open; the third load fails. -/
def openFavorite : Session Faltering History where
  service :=
    { store := { records := [⟨2, "", "", .beginner, "", true, ⟨0, 0⟩, none⟩,
        ⟨1, "", "", .beginner, "", true, ⟨0, 0⟩, none⟩] }
      fails := [false, false, true] }
  state :=
    { History.start 1 with
      filters := { isFavorite := some true }
      selected := some ⟨1, "", "", .beginner, "", true, ⟨0, 0⟩, none⟩ }

theorem favorites_settle_of_faltering :
    let once := (markFavorite 2 false openFavorite).2
    let twice := (markFavorite 2 false once).2
    ((Archive.records openFavorite.service).map (·.id)).Nodup
    ∧ Smooth (openFavorite.since once) ∧ Smooth (once.since twice)
    ∧ twice.state = { once.state with issued := once.state.issued + 1 }
    ∧ (∀ j < 3, Acknowledged ((toggles j openFavorite).since (toggles (j + 1) openFavorite)))
    ∧ (toggles 3 openFavorite).state.view = .failed loadFailure
    ∧ ∃ now, (toggles 3 openFavorite).state.selected = some now ∧ now.isFavorite = false := by
  intro once twice
  have distinct : ((Archive.records openFavorite.service).map (·.id)).Nodup := by decide
  have first : Smooth (openFavorite.since once) := by decide
  have second : Smooth (once.since twice) := by decide
  have acknowledged : ∀ j < 3,
      Acknowledged ((toggles j openFavorite).since (toggles (j + 1) openFavorite)) := by decide
  have settled := favorites_settle openFavorite distinct
  have kept : ∃ r ∈ Archive.records openFavorite.service, r.id = 1 := by decide
  obtain ⟨⟨now, opened, -, flag⟩, -, -⟩ := settled.2 _ rfl kept 3 (by decide) acknowledged
  exact ⟨distinct, first, second, (settled.1 2 false first second).2.2, acknowledged, by decide,
    now, opened, flag⟩

end History

end Exposition
