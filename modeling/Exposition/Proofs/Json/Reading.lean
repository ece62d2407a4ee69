import Exposition.Json.Reader
import Exposition.Proofs.Json.Tokens

/-!
# Proofs/Json/Reading — a spelled value is read as that value

Every value has one row of tokens (`inTokens`), and every text that spells it is read as the value
(`read_of_spells`).  The reader keeps the open containers in a list; what it does with the tokens of
a value depends on nothing in that list (`feedAll_inTokens`).
-/

namespace Exposition.Json

open Text.Utf8 (encode)

/-! ## The tokens of a value -/

mutual

/-- **The tokens of a value.** -/
def inTokens : Json → List Token
  | .null => [.null]
  | .bool b => [.bool b]
  | .number n => [.number n]
  | .string text => [.string text]
  | .array items => .openArray :: (itemTokens items ++ [.closeArray])
  | .object fields => .openObject :: (fieldTokens fields ++ [.closeObject])

/-- The tokens of items, with commas between them. -/
def itemTokens : List Json → List Token
  | [] => []
  | v :: vs => inTokens v ++ (if vs.isEmpty then [] else .comma :: itemTokens vs)

/-- The tokens of fields, with commas between them. -/
def fieldTokens : List (Text × Json) → List Token
  | [] => []
  | (name, v) :: fields => .string name :: .colon :: inTokens v ++
      (if fields.isEmpty then [] else .comma :: fieldTokens fields)

end

/-- **A text spells a value** if it spells its tokens. -/
def Spells (v : Json) (cs : List Char) : Prop := Spelled v.inTokens cs

/-! ## Reading -/

namespace Reader

/-- The reader after some more tokens. -/
def feedAll (r : Reader) (ts : List Token) : Option Reader := ts.foldlM feed r

theorem feedAll_append (r : Reader) (ts ts' : List Token) :
    r.feedAll (ts ++ ts') = (r.feedAll ts).bind (feedAll · ts') := List.foldlM_append ..

/-- Where an item may come, the first token of a value is taken as one. -/
theorem feedAll_item (frames : List Frame) (v : Json) :
    feedAll ⟨frames, .item⟩ v.inTokens = feedAll ⟨frames, .value⟩ v.inTokens := by
  cases v with
  | _ => rfl

mutual

/-- **The tokens of a value are taken as that value**, whatever is open. -/
theorem feedAll_inTokens : (v : Json) → (frames : List Frame) →
    feedAll ⟨frames, .value⟩ v.inTokens = some ⟨frames, .done v⟩
  | .null, _ => rfl
  | .bool _, _ => rfl
  | .number _, _ => rfl
  | .string _, _ => rfl
  | .array [], _ => rfl
  | .array (v :: vs), frames => by
    change feedAll ⟨.array [] :: frames, .item⟩ (_ ++ [.closeArray]) = _
    rw [itemTokens, List.append_assoc, feedAll_append, feedAll_item, feedAll_inTokens v]
    exact feedAll_moreItems vs frames [] v
  | .object [], _ => rfl
  | .object ((name, v) :: fields), frames => by
    change feedAll ⟨.object [] name :: frames, .value⟩ (_ ++ _ ++ [.closeObject]) = _
    rw [List.append_assoc, feedAll_append, feedAll_inTokens v]
    exact feedAll_moreFields fields frames [] name v

/-- The rest of an array is taken after the items that it holds so far. -/
theorem feedAll_moreItems : (vs : List Json) → (frames : List Frame) → (before : List Json) →
    (v : Json) → feedAll ⟨.array before :: frames, .done v⟩
        ((if vs.isEmpty then [] else .comma :: itemTokens vs) ++ [.closeArray])
      = some ⟨frames, .done (.array (before.reverse ++ v :: vs))⟩
  | [], frames, before, v => by
    change some (Reader.mk frames (.done (.array (v :: before).reverse))) = _
    rw [List.reverse_cons]
  | w :: vs, frames, before, v => by
    change feedAll ⟨.array (v :: before) :: frames, .value⟩ (itemTokens (w :: vs) ++ [.closeArray])
      = _
    rw [itemTokens, List.append_assoc, feedAll_append, feedAll_inTokens w, Option.bind_some,
      feedAll_moreItems vs frames (v :: before) w, List.reverse_cons, List.append_assoc]
    rfl

/-- The rest of an object is taken after the fields that it holds so far. -/
theorem feedAll_moreFields : (fields : List (Text × Json)) → (frames : List Frame) →
    (before : List (Text × Json)) → (name : Text) → (v : Json) →
    feedAll ⟨.object before name :: frames, .done v⟩
        ((if fields.isEmpty then [] else .comma :: fieldTokens fields) ++ [.closeObject])
      = some ⟨frames, .done (.object (before.reverse ++ (name, v) :: fields))⟩
  | [], frames, before, name, v => by
    change some (Reader.mk frames (.done (.object ((name, v) :: before).reverse))) = _
    rw [List.reverse_cons]
  | (name', w) :: fields, frames, before, name, v => by
    change feedAll ⟨.object ((name, v) :: before) name' :: frames, .value⟩
      (_ ++ _ ++ [.closeObject]) = _
    rw [List.append_assoc, feedAll_append, feedAll_inTokens w, Option.bind_some,
      feedAll_moreFields fields frames ((name, v) :: before) name' w, List.reverse_cons,
      List.append_assoc]
    rfl

end

end Reader

/-- **A text that spells a value is read as that value.** -/
theorem read_of_spells {v : Json} {cs : List Char} (spells : v.Spells cs) :
    read (encode cs) = some v := by
  have fed : v.inTokens.foldlM Reader.feed ⟨[], .value⟩ = some ⟨[], .done v⟩ :=
    Reader.feedAll_inTokens v []
  rw [read, tokens_of_spelled spells]
  simp only [Option.bind_eq_bind, Option.bind_some, fed]
  rfl

end Exposition.Json
