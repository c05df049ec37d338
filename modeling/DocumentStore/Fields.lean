/-!
This file defines ordered fields, which JSON objects and stored documents share.

Every operation keeps the order of the fields. A key that is inserted again keeps its place.
-/

namespace DocumentStore

/-- Fields are keys with values in insertion order. -/
abbrev Fields (α : Type) :=
  List (String × α)

namespace Fields

variable {α β : Type}

def keys (fields : Fields α) : List String :=
  fields.map Prod.fst

/-- This is the value of the first field with a key. -/
def get? : Fields α → String → Option α
  | [], _ => none
  | (name, value) :: rest, key => if name = key then some value else get? rest key

/-- A new key goes to the end, and a known key takes the new value in its place. -/
def insert : Fields α → String → α → Fields α
  | [], key, value => [(key, value)]
  | (name, old) :: rest, key, value =>
    if name = key then (name, value) :: rest else (name, old) :: insert rest key value

/-- This inserts pairs one after another, so the last value of a key wins. -/
def ofList (pairs : List (String × α)) : Fields α :=
  pairs.foldl (fun fields pair => fields.insert pair.1 pair.2) []

/-- Fields are distinct when no key occurs twice. -/
def Distinct (fields : Fields α) : Prop :=
  fields.keys.Nodup

theorem get?_insert (fields : Fields α) (key name : String) (value : α) :
    (fields.insert key value).get? name = if key = name then some value else fields.get? name := by
  induction fields with
  | nil => simp [insert, get?]
  | cons field rest inductionHypothesis =>
    obtain ⟨first, old⟩ := field
    simp only [insert]
    split <;> simp only [get?] <;> grind

theorem keys_insert (fields : Fields α) (key : String) (value : α) :
    (fields.insert key value).keys =
      if key ∈ fields.keys then fields.keys else fields.keys ++ [key] := by
  induction fields with
  | nil => simp [insert, keys]
  | cons field rest inductionHypothesis =>
    obtain ⟨first, old⟩ := field
    simp only [keys] at inductionHypothesis ⊢
    simp only [insert]
    split <;> grind

theorem insert_of_notMem (fields : Fields α) (key : String) (value : α)
    (fresh : key ∉ fields.keys) : fields.insert key value = fields ++ [(key, value)] := by
  induction fields with
  | nil => rfl
  | cons field rest inductionHypothesis =>
    obtain ⟨first, old⟩ := field
    simp only [keys, List.map_cons, List.mem_cons, not_or] at fresh
    simp [insert, Ne.symm fresh.1, inductionHypothesis fresh.2]

theorem Distinct.insert {fields : Fields α} (distinct : fields.Distinct) (key : String)
    (value : α) : (fields.insert key value).Distinct := by
  simp only [Distinct, keys_insert] at distinct ⊢
  split
  · exact distinct
  · simp only [List.nodup_append]
    grind

theorem foldl_insert_distinct (pairs : List (String × α)) (fields : Fields α)
    (distinct : (fields ++ pairs).Distinct) :
    pairs.foldl (fun fields pair => fields.insert pair.1 pair.2) fields = fields ++ pairs := by
  induction pairs generalizing fields with
  | nil => simp
  | cons pair rest inductionHypothesis =>
    have fresh : pair.1 ∉ fields.keys := by
      simp only [Distinct, keys, List.map_append, List.map_cons, List.nodup_append] at distinct
      grind [keys]
    rw [List.foldl_cons, insert_of_notMem fields pair.1 pair.2 fresh,
      inductionHypothesis _ (by simpa [Distinct, keys] using distinct)]
    simp

/-- Distinct fields are rebuilt as they are. -/
theorem ofList_distinct {fields : Fields α} (distinct : fields.Distinct) :
    ofList fields = fields := by
  simpa [ofList] using foldl_insert_distinct fields [] (by simpa using distinct)

end Fields

end DocumentStore
