import Exposition.Service.Store

/-!
# Proofs/Archive — services that keep records

What a history shows can only be as coherent as the service behind it.  An **archive** is a service
that holds a list of records: it lists those that its filters admit, counted and cut into pages in
the order of the list, and it changes them only when it is told to.  It may fail whenever it likes;
a law speaks of what it has answered.

The store in memory is an archive.
-/

namespace Exposition

/-- A request that changes records. -/
def Request.changes : Request → Bool
  | .mark _ _ => true
  | .delete _ => true
  | _ => false

/-- **A page of some records**, with the number of all of them. -/
def Slice.cut (records : List Record) (q : Query) : Slice where
  records := (records.drop ((q.page - 1) * q.perPage)).take q.perPage
  totalCount := records.length

/-- A page is empty when the records before it use up all there are. -/
theorem Slice.cut_records_eq_nil_iff {records : List Record} {q : Query} (size : 1 ≤ q.perPage) :
    (Slice.cut records q).records = [] ↔ records.length ≤ (q.page - 1) * q.perPage := by
  have positive : q.perPage ≠ 0 := Nat.ne_of_gt size
  rw [cut, List.take_eq_nil_iff, List.drop_eq_nil_iff]
  exact or_iff_right positive

/-- The records on a page are those between its first and its last position. -/
theorem Slice.cut_eq_between (records : List Record) (q : Query) (first : 1 ≤ q.page) :
    (Slice.cut records q).records
      = (records.take (min (q.page * q.perPage) records.length)).drop
        ((q.page - 1) * q.perPage) := by
  have width : q.page * q.perPage - (q.page - 1) * q.perPage = q.perPage := by
    rw [← Nat.sub_mul, Nat.sub_sub_self first, Nat.one_mul]
  rw [List.take_eq_take_min.symm, List.drop_take, width]
  rfl

/-- Where numbers are distinct, erasing one record of a number erases them all. -/
theorem eraseP_id_eq_filter {records : List Record} (distinct : (records.map (·.id)).Nodup)
    (id : Int) : records.eraseP (·.id == id) = records.filter (·.id != id) := by
  induction records with
  | nil => rfl
  | cons r rs ih =>
    rw [List.map_cons, List.nodup_cons] at distinct
    by_cases same : r.id = id
    · have others : ∀ r' ∈ rs, (r'.id != id) = true := fun r' mem => by
        refine bne_iff_ne.2 fun same' => distinct.1 ?_
        rw [same, ← same']
        exact List.mem_map_of_mem mem
      rw [List.eraseP_cons_of_pos (by simp [same]), List.filter_cons_of_neg (by simp [same]),
        List.filter_eq_self.2 others]
    · rw [List.eraseP_cons_of_neg (by simp [same]), List.filter_cons_of_pos (by simp [same]),
        ih distinct.2]

/-- **A service that keeps records.** -/
class Archive (σ : Type) extends Service σ where
  /-- The records, in the order in which they are listed. -/
  records : σ → List Record
  /-- Which records the filters let through. -/
  admits (σ) : Filters → Record → Bool
  list_ok {s s' : σ} {q : Query} {slice : Slice} (answered : answer (.list q) s = (.ok slice, s')) :
    slice = Slice.cut ((records s).filter (admits q.filters)) q
  mark_ok {s s' : σ} {id : Int} {isFavorite : Bool} {message : String}
    (answered : answer (.mark id isFavorite) s = (.ok message, s')) :
    records s' = Store.updateFirst id (fun r => { r with isFavorite }) (records s)
  delete_ok {s s' : σ} {id : Int} (answered : answer (.delete id) s = (.ok (), s')) :
    records s' = (records s).eraseP (·.id == id)
  /-- Nothing else touches the records. -/
  unchanged {r : Request} (reads : r.changes = false) (s : σ) : records (answer r s).2 = records s

namespace Archive

variable {σ : Type} [Archive σ]

/-- The records that the filters let through. -/
def matching (s : σ) (f : Filters) : List Record := (records s).filter (admits σ f)

/-- The page that a query asks for. -/
def page (s : σ) (q : Query) : Slice := .cut (matching s q.filters) q

/-- **A page that is given is the page that was asked for**, and the records stay. -/
theorem of_listed {s s' : σ} {q : Query} {slice : Slice}
    (answered : Service.answer (.list q) s = (.ok slice, s')) :
    slice = page s q ∧ records s' = records s := by
  refine ⟨list_ok answered, ?_⟩
  have hrecords : records (Service.answer (.list q) s).2 = records s := unchanged rfl s
  rwa [answered] at hrecords

theorem matching_congr {s s' : σ} (same : records s' = records s) (f : Filters) :
    matching s' f = matching s f := by rw [matching, matching, same]

theorem page_congr {s s' : σ} (same : records s' = records s) (q : Query) :
    page s' q = page s q := by rw [page, page, matching_congr same]

end Archive

/-- **A store is an archive.** -/
instance : Archive Store where
  records := Store.records
  admits := Filters.admits
  list_ok answered := (Except.ok.inj (Prod.mk.inj answered).1).symm
  mark_ok {s s' id isFavorite message} answered := by
    change s.reply (.mark id isFavorite) = _ at answered
    rw [Store.reply] at answered
    split at answered
    · exact (congrArg Store.records (Prod.mk.inj answered).2).symm
    · exact absurd (Prod.mk.inj answered).1 (by simp)
  delete_ok {s s' id} answered := by
    change s.reply (.delete id) = _ at answered
    rw [Store.reply] at answered
    split at answered
    · exact (congrArg Store.records (Prod.mk.inj answered).2).symm
    · exact absurd (Prod.mk.inj answered).1 (by simp)
  unchanged {r} reads s := by
    change (s.reply r).2.records = s.records
    cases r with
    | get id => simp only [Store.reply]; split <;> rfl
    | mark id isFavorite => exact absurd reads (by simp [Request.changes])
    | delete id => exact absurd reads (by simp [Request.changes])
    | _ => rfl

end Exposition
