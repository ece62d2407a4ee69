import Exposition.Service.Remote
import Exposition.Proofs.Url.Join
import Mathlib.Data.Nat.Digits.Defs

/-!
# Proofs/Service/Endpoint — the URL of a request

The path of every endpoint is a row of steps, so that its URL is the URL of the base with these
steps in the place of the last segment of its path (`endpoint_eq`).
-/

namespace Exposition

open Text

namespace Request

/-- The steps of the path of an endpoint. -/
def steps : Request → List String
  | .list _ => ["history", "explanations"]
  | .get id => ["history", "explanations", decimalInt id]
  | .mark id _ => ["history", "explanations", decimalInt id, "favorite"]
  | .delete id => ["history", "explanations", decimalInt id]
  | .stats => ["history", "stats"]
  | .languages => ["code", "languages"]
  | .levels => ["code", "complexity-levels"]
  | .explain _ => ["code", "explain"]
  | .health => ["health"]

theorem steps_ne_nil (r : Request) : r.steps ≠ [] := by
  cases r with
  | _ => exact List.cons_ne_nil _ _

/-! The paths that name a record, with their slashes set apart. -/

theorem toList_explanations (id : Int) : ("history/explanations/" ++ decimalInt id).toList
    = List.intercalate ['/'] ["history".toList, "explanations".toList, (decimalInt id).toList] := by
  have apart : "history/explanations/".toList
      = "history".toList ++ '/' :: ("explanations".toList ++ ['/']) := by decide
  rw [String.toList_append, apart]
  simp only [List.intercalate_cons_cons, List.intercalate_singleton, List.append_assoc,
    List.cons_append, List.nil_append]

theorem toList_favorite (id : Int) :
    ("history/explanations/" ++ decimalInt id ++ "/favorite").toList = List.intercalate ['/']
      ["history".toList, "explanations".toList, (decimalInt id).toList, "favorite".toList] := by
  have apart : "/favorite".toList = '/' :: "favorite".toList := by decide
  rw [String.toList_append, toList_explanations, apart]
  simp only [List.intercalate_cons_cons, List.intercalate_singleton, List.append_assoc,
    List.cons_append, List.nil_append]

/-- **The path of an endpoint** is its steps with slashes between them. -/
theorem toList_path (r : Request) :
    r.path.toList = List.intercalate ['/'] (r.steps.map String.toList) := by
  cases r with
  | list q =>
    change "history/explanations".toList
      = List.intercalate ['/'] (["history", "explanations"].map String.toList)
    decide
  | get id => exact toList_explanations id
  | mark id isFavorite => exact toList_favorite id
  | delete id => exact toList_explanations id
  | explain snippet =>
    change "code/explain".toList = List.intercalate ['/'] (["code", "explain"].map String.toList)
    decide
  | _ => decide

/-- The number of a record is a step. -/
theorem isStep_decimalInt (id : Int) : Url.IsStep (decimalInt id).toList := by
  have digits (n : Nat) : Url.IsStep (decimal n).toList := by
    rw [decimal, String.toList_ofList]
    refine ⟨Nat.toDigits_ne_nil, fun c mem => ?_⟩
    have digit : c.isDigit = true := Nat.isDigit_of_mem_toDigits (by decide) (by decide) mem
    rw [Url.isStepChar, Char.isAlphanum, digit, Bool.or_true, Bool.true_or]
  cases id with
  | ofNat n => exact digits n
  | negSucc n =>
    rw [decimalInt, String.toList_append]
    refine ⟨by simp, fun c mem => ?_⟩
    rcases List.mem_append.1 mem with sign | digit
    · obtain rfl : c = '-' := List.mem_singleton.1 sign
      rfl
    · exact (digits (n + 1)).2 c digit

theorem isStep_of_mem_steps (r : Request) : ∀ step ∈ r.steps.map String.toList,
    Url.IsStep step := by
  have history : Url.IsStep "history".toList := .of_all (by decide) (by decide)
  have explanations : Url.IsStep "explanations".toList := .of_all (by decide) (by decide)
  have favorite : Url.IsStep "favorite".toList := .of_all (by decide) (by decide)
  have stats : Url.IsStep "stats".toList := .of_all (by decide) (by decide)
  have code : Url.IsStep "code".toList := .of_all (by decide) (by decide)
  have languages : Url.IsStep "languages".toList := .of_all (by decide) (by decide)
  have levels : Url.IsStep "complexity-levels".toList := .of_all (by decide) (by decide)
  have explain : Url.IsStep "explain".toList := .of_all (by decide) (by decide)
  have health : Url.IsStep "health".toList := .of_all (by decide) (by decide)
  rw [List.forall_mem_map]
  cases r with
  | _ => simp only [steps, List.forall_mem_cons, isStep_decimalInt, List.not_mem_nil,
      IsEmpty.forall_iff, implies_true, and_true, *]

end Request

namespace Remote

/-- **The URL of a request**: the steps of its endpoint come after the base's path up to its last
slash, and the names and values of the request are the query. -/
theorem endpoint_eq {base : Url} {segments : List String} (rooted : base.path = .segments segments)
    (r : Request) : endpoint base r = .ok
      { base with
        user := ""
        password := ""
        path := .segments (segments.dropLast ++ r.steps)
        query := if r.parameters.isEmpty then none else some (Url.formEncode r.parameters)
        fragment := none } := by
  have names : (r.steps.map String.toList).map String.ofList = r.steps := by
    rw [List.map_map]
    exact List.map_id'' (fun _ => String.ofList_toList) _
  have path : r.path = String.ofList (List.intercalate ['/'] (r.steps.map String.toList)) := by
    rw [← r.toList_path, String.ofList_toList]
  rw [endpoint, path, Url.join_steps rooted r.isStep_of_mem_steps
    (by simpa using r.steps_ne_nil), names]
  simp only [withParameters, Url.withQuery, Url.withoutCredentials]
  split
  · rfl
  · rfl

end Remote

end Exposition
