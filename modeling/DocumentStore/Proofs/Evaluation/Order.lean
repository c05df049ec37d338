import DocumentStore.Evaluation.Sorting
import DocumentStore.Proofs.Value.Ordering

/-!
This file shows that every order is a total preorder on the items that have a place in it. All items
that can be stored have one, because their doubles are finite.

A value with a place sorts by a key of three parts. Only what is not a number has no place.
-/

namespace DocumentStore

/-- A sort key is compared by its kind first, then by its number, and then by its text. -/
structure SortKey where
  kind : Nat
  number : Int
  text : String

instance : Ord SortKey :=
  ⟨compareLex (compareOn SortKey.kind) (compareLex (compareOn SortKey.number)
    (compareOn SortKey.text))⟩

instance : Std.TransOrd SortKey :=
  inferInstanceAs (Std.TransCmp (compareLex _ (compareLex _ _)))

namespace Comparand

/-- This is the part of a key that tells numbers, dates and booleans apart. -/
def sortNumber : Comparand → Int
  | number value => value.place.getD 0
  | date instant => instant.milliseconds.toInt
  | bool value => value.toNat
  | _ => 0

/-- Only texts sort by a text. -/
def sortText : Comparand → String
  | text value => value
  | _ => ""

/-- The kind comes first, and numbers and texts decide within a kind. -/
def sortKey (comparand : Comparand) : SortKey where
  kind := comparand.rank
  number := comparand.sortNumber
  text := comparand.sortText

/-- A comparand has a place in an order unless it is not a number. -/
def HasPlace : Comparand → Prop
  | number value => ∃ place, value.place = some place
  | _ => True

/-- Two values sort the other way round when they change places. -/
theorem sortOrder_swap (left right : Comparand) :
    right.sortOrder left = (left.sortOrder right).swap := by
  rw [sortOrder, sortOrder, compare?_swap left right]
  cases left.compare? right with
  | none => exact (Nat.compare_swap left.rank right.rank).symm
  | some ordering => rfl

/-- False stands before true, as zero before one. -/
theorem compare_bool (left right : Bool) :
    compare left right = compare (left.toNat : Int) (right.toNat : Int) := by
  revert left right
  decide

/-- Values of different kinds have no order of their own. -/
theorem compare?_of_rank_ne {left right : Comparand} (different : left.rank ≠ right.rank) :
    left.compare? right = none := by
  cases left <;> cases right <;> first | rfl | exact absurd rfl different

/-- Values of different kinds sort by their kinds. -/
theorem sortOrder_of_rank_ne {left right : Comparand} (different : left.rank ≠ right.rank) :
    left.sortOrder right = compare left.sortKey right.sortKey := by
  have kinds : compare left.rank right.rank ≠ .eq := by
    intro same
    exact different (Nat.compare_eq_eq.mp same)
  rw [sortOrder, compare?_of_rank_ne different, Option.getD_none]
  change _ = (compare left.rank right.rank).then _
  cases ranks : compare left.rank right.rank with
  | eq => exact absurd ranks kinds
  | _ => rfl

/-- Within a kind, a number or a text decides. -/
theorem sortOrder_of_rank_eq {left right : Comparand} (leftPlace : left.HasPlace)
    (rightPlace : right.HasPlace) (same : left.rank = right.rank) :
    left.sortOrder right = (compare left.sortNumber right.sortNumber).then
      (compare left.sortText right.sortText) := by
  -- With equal ranks only two values of one kind are left to compare.
  cases left with
  | null => cases right with
    | null => rfl
    | _ => cases same
  | bool first => cases right with
    | bool second =>
        simp [sortOrder, compare?, sortNumber, sortText, compare_bool first second]
    | _ => cases same
  | number first => cases right with
    | number second =>
        obtain ⟨firstPlace, firstKnown⟩ := leftPlace
        obtain ⟨secondPlace, secondKnown⟩ := rightPlace
        simp [sortOrder, compare?, Double.compare?, sortNumber, sortText, firstKnown, secondKnown]
    | _ => cases same
  | date first => cases right with
    | date second => simp [sortOrder, compare?, sortNumber, sortText]
    | _ => cases same
  | text first => cases right with
    | text second => simp [sortOrder, compare?, sortNumber, sortText]
    | _ => cases same
  | array first => cases right with
    | array second => simp [sortOrder, compare?, rank, sortNumber, sortText]
    | _ => cases same
  | map first => cases right with
    | map second => simp [sortOrder, compare?, rank, sortNumber, sortText]
    | _ => cases same

/-- Values with places sort by their keys. -/
theorem sortOrder_eq {left right : Comparand} (leftPlace : left.HasPlace)
    (rightPlace : right.HasPlace) :
    left.sortOrder right = compare left.sortKey right.sortKey := by
  by_cases same : left.rank = right.rank
  · rw [sortOrder_of_rank_eq leftPlace rightPlace same]
    change _ = (compare left.rank right.rank).then _
    rw [same, Nat.compare_eq_eq.mpr rfl]
    rfl
  · exact sortOrder_of_rank_ne same

/-- Every integer of at most 64 bits has a place. -/
theorem hasPlace_ofInt {value : Int} (bound : value.natAbs < 18446744073709551616) :
    (number (Double.ofInt value)).HasPlace := by
  obtain ⟨finite, rounded⟩ := Double.exists_ofInt_eq_finite value bound
  exact ⟨finite.units, by rw [rounded, Double.place_finite]⟩

/-- Every narrow integer has a place. -/
theorem hasPlace_ofInt32 (value : Int32) : (number (Double.ofInt value.toInt)).HasPlace := by
  have lower := value.le_toInt
  have upper := value.toInt_lt
  apply hasPlace_ofInt
  omega

/-- Every wide integer has a place. -/
theorem hasPlace_ofInt64 (value : Int64) : (number (Double.ofInt value.toInt)).HasPlace := by
  have lower := value.le_toInt
  have upper := value.toInt_lt
  apply hasPlace_ofInt
  omega

end Comparand

namespace Order

/-- An item has a place in an order when the value of every sorted field has one. -/
def Places (order : Order) (item : Item) : Prop :=
  ∀ entry ∈ order.entries, (Comparand.ofField (item.get? entry.field.text)).HasPlace

/-- An item sorts by the key of its field. -/
def keyOf (field : FieldName) (item : Item) : SortKey :=
  (Comparand.ofField (item.get? field.text)).sortKey

/-- This compares two items by the keys of one field. -/
def keyOrder (entry : SortEntry) : Item → Item → Ordering :=
  match entry.direction with
  | .ascending => compareOn (keyOf entry.field)
  | .descending => fun left right => compareOn (keyOf entry.field) right left

/-- Later entries only decide between equal keys. -/
def keysOrder : List SortEntry → Item → Item → Ordering
  | [] => fun _ _ => .eq
  | entry :: rest => compareLex (keyOrder entry) (keysOrder rest)

instance (entry : SortEntry) : Std.TransCmp (keyOrder entry) := by
  unfold keyOrder
  split <;> infer_instance

instance transCmp_keysOrder (entries : List SortEntry) : Std.TransCmp (keysOrder entries) := by
  induction entries with
  | nil => exact { eq_swap := rfl, isLE_trans := fun _ _ => rfl }
  | cons entry rest inductionHypothesis =>
      exact inferInstanceAs (Std.TransCmp (compareLex (keyOrder entry) (keysOrder rest)))

variable {first second third : Item}

/-- An entry compares the keys of its field. -/
theorem compareByEntry_eq (entry : SortEntry)
    (firstPlace : (Comparand.ofField (first.get? entry.field.text)).HasPlace)
    (secondPlace : (Comparand.ofField (second.get? entry.field.text)).HasPlace) :
    compareByEntry entry first second = keyOrder entry first second := by
  have keys := Comparand.sortOrder_eq firstPlace secondPlace
  unfold compareByEntry keyOrder
  rw [keys]
  cases entry.direction with
  | ascending => rfl
  | descending => exact Std.OrientedCmp.eq_swap.symm

/-- Items with a place in an order compare by their keys. -/
theorem compareItems_eq (order : Order) (firstPlaces : order.Places first)
    (secondPlaces : order.Places second) :
    order.compareItems first second = keysOrder order.entries first second := by
  unfold Places at firstPlaces secondPlaces
  unfold compareItems
  generalize order.entries = entries at firstPlaces secondPlaces ⊢
  induction entries with
  | nil => rfl
  | cons entry rest inductionHypothesis =>
      rw [List.forall_mem_cons] at firstPlaces secondPlaces
      rw [compareByEntries, compareByEntry_eq entry firstPlaces.1 secondPlaces.1,
        inductionHypothesis firstPlaces.2 secondPlaces.2]
      rfl

/-- An entry compares both ways alike. -/
theorem compareByEntry_swap (entry : SortEntry) (first second : Item) :
    compareByEntry entry second first = (compareByEntry entry first second).swap := by
  have values := Comparand.sortOrder_swap (Comparand.ofField (first.get? entry.field.text))
    (Comparand.ofField (second.get? entry.field.text))
  unfold compareByEntry
  rw [values]
  cases entry.direction <;> rfl

/-- Two items compare the other way round when they change places. -/
theorem compareItems_swap (order : Order) (first second : Item) :
    order.compareItems second first = (order.compareItems first second).swap := by
  unfold compareItems
  induction order.entries with
  | nil => rfl
  | cons entry rest inductionHypothesis =>
      rw [compareByEntries, compareByEntries, compareByEntry_swap, inductionHypothesis,
        Ordering.swap_then]

/-- Items with places are sorted transitively. -/
theorem compareItems_trans (order : Order) (firstPlaces : order.Places first)
    (secondPlaces : order.Places second) (thirdPlaces : order.Places third)
    (left : order.compareItems first second ≠ .gt)
    (right : order.compareItems second third ≠ .gt) :
    order.compareItems first third ≠ .gt := by
  rw [order.compareItems_eq firstPlaces secondPlaces] at left
  rw [order.compareItems_eq secondPlaces thirdPlaces] at right
  rw [order.compareItems_eq firstPlaces thirdPlaces]
  exact Std.TransCmp.le_trans left right

end Order

/-- A value that can be stored has a place in every order, and so has a missing field. -/
theorem Item.Storable.places {item : Item} (storable : item.Storable) (order : Order) :
    order.Places item := by
  intro entry _
  cases found : item.get? entry.field.text with
  | none => exact trivial
  | some value =>
      cases storable.get? found with
      | int32 value => exact Comparand.hasPlace_ofInt32 value
      | int64 value => exact Comparand.hasPlace_ofInt64 value
      | double number => exact ⟨number.units, rfl⟩
      | _ => exact trivial

end DocumentStore
