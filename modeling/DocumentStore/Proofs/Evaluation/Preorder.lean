import DocumentStore.Proofs.Evaluation.Order

/-!
This file tells where the order of sorting is transitive. What is not a number ties with every
number, and only this breaks the transitivity. An order is a total preorder on all other items.
-/

namespace DocumentStore

theorem Double.infinite_below : (infinite true).Below (infinite false) :=
  ⟨-infiniteUnits, infiniteUnits, rfl, rfl, by decide⟩

namespace Comparand

/-- Every value has a place, or it is not a number. -/
theorem hasPlace_or_nan (comparand : Comparand) :
    comparand.HasPlace ∨ comparand = .number .nan := by
  cases comparand with
  | number value =>
      cases known : value.place with
      | some place => exact .inl ⟨place, known⟩
      | none => exact .inr (congrArg number (Double.place_eq_none_iff.mp known))
  | _ => exact .inl trivial

/-- Every value ties with itself. -/
theorem sortOrder_self (comparand : Comparand) : comparand.sortOrder comparand = .eq := by
  have swapped := sortOrder_swap comparand comparand
  revert swapped
  cases comparand.sortOrder comparand <;> decide

/-- What is not a number only sorts by its kind. -/
theorem sortOrder_nan_left (other : Comparand) :
    (number .nan).sortOrder other = compare 1 other.rank := by
  have unordered : (number .nan).compare? other = none := by
    cases other <;> simp [compare?, Double.compare?, Double.place]
  rw [sortOrder, unordered]
  rfl

/-- What is not a number only sorts by its kind from the right side too. -/
theorem sortOrder_nan_right (other : Comparand) :
    other.sortOrder (number .nan) = compare other.rank 1 := by
  rw [sortOrder_swap, sortOrder_nan_left, Nat.compare_swap]

/-- What sorts first has no later kind. -/
theorem rank_le_of_sortOrder {left right : Comparand} (notGreater : left.sortOrder right ≠ .gt) :
    left.rank ≤ right.rank := by
  by_contra above
  have greater : right.rank < left.rank := Nat.lt_of_not_le above
  apply notGreater
  rw [sortOrder, compare?_of_rank_ne (Nat.ne_of_gt greater)]
  exact Nat.compare_eq_gt.mpr greater

/-- Only numbers have the kind of numbers. -/
theorem exists_number_of_rank {comparand : Comparand} (kind : comparand.rank = 1) :
    ∃ value, comparand = .number value := by
  cases comparand with
  | number value => exact ⟨value, rfl⟩
  | _ => cases kind

/-- A number sorts behind another when it is the greater one. -/
theorem sortOrder_number_eq_gt_iff (left right : Double) :
    (number left).sortOrder (number right) = .gt ↔ right.Below left := by
  rw [← Double.compare?_eq_lt_iff, sortOrder_swap, Ordering.swap_eq_gt]
  change (right.compare? left).getD .eq = .lt ↔ _
  cases right.compare? left with
  | none => exact iff_of_false nofun nofun
  | some ordering => exact (Option.some_inj).symm

/-- Values with places are sorted transitively. -/
theorem sortOrder_trans_of_hasPlace {first second third : Comparand} (firstPlace : first.HasPlace)
    (secondPlace : second.HasPlace) (thirdPlace : third.HasPlace)
    (left : first.sortOrder second ≠ .gt) (right : second.sortOrder third ≠ .gt) :
    first.sortOrder third ≠ .gt := by
  rw [sortOrder_eq firstPlace secondPlace] at left
  rw [sortOrder_eq secondPlace thirdPlace] at right
  rw [sortOrder_eq firstPlace thirdPlace]
  exact Std.TransCmp.le_trans left right

/-- The order is transitive over all values in the middle that have a place. -/
theorem sortOrder_trans {first second third : Comparand} (secondPlace : second.HasPlace)
    (left : first.sortOrder second ≠ .gt) (right : second.sortOrder third ≠ .gt) :
    first.sortOrder third ≠ .gt := by
  have ranks := Nat.le_trans (rank_le_of_sortOrder left) (rank_le_of_sortOrder right)
  rcases first.hasPlace_or_nan with firstPlace | rfl
  · rcases third.hasPlace_or_nan with thirdPlace | rfl
    · exact sortOrder_trans_of_hasPlace firstPlace secondPlace thirdPlace left right
    · rw [sortOrder_nan_right]
      exact Nat.compare_ne_gt.mpr ranks
  · rw [sortOrder_nan_left]
    exact Nat.compare_ne_gt.mpr ranks

/-- The order is transitive unless a greater and a lesser number tie with what is not a number. -/
theorem sortOrder_trans_iff (first second third : Comparand) :
    (first.sortOrder second ≠ .gt → second.sortOrder third ≠ .gt → first.sortOrder third ≠ .gt) ↔
      ¬ (second = .number .nan ∧ ∃ greater less : Double,
        first = .number greater ∧ third = .number less ∧ less.Below greater) := by
  constructor
  · rintro transitive ⟨rfl, greater, less, rfl, rfl, below⟩
    apply transitive
    · rw [sortOrder_nan_right]
      exact Nat.compare_ne_gt.mpr (Nat.le_refl 1)
    · rw [sortOrder_nan_left]
      exact Nat.compare_ne_gt.mpr (Nat.le_refl 1)
    · exact (sortOrder_number_eq_gt_iff greater less).mpr below
  · intro noTie left right
    rcases second.hasPlace_or_nan with secondPlace | rfl
    · exact sortOrder_trans secondPlace left right
    · intro above
      -- The three values stand in a circle now, so they share the rank of numbers.
      have back : third.sortOrder first ≠ .gt := by
        rw [sortOrder_swap, above]
        nofun
      have firstLe : first.rank ≤ 1 := rank_le_of_sortOrder left
      have leThird : 1 ≤ third.rank := rank_le_of_sortOrder right
      have thirdLe := rank_le_of_sortOrder back
      obtain ⟨greater, rfl⟩ := exists_number_of_rank (by omega : first.rank = 1)
      obtain ⟨less, rfl⟩ := exists_number_of_rank (by omega : third.rank = 1)
      exact noTie ⟨rfl, greater, less, rfl, rfl, (sortOrder_number_eq_gt_iff greater less).mp above⟩

/-- A stored value has a place unless it is a double that is not a number. -/
theorem hasPlace_comparand_iff {value : Value} :
    value.comparand.HasPlace ↔ value ≠ .double .nan := by
  cases value with
  | int32 value => exact iff_of_true (hasPlace_ofInt32 value) nofun
  | int64 value => exact iff_of_true (hasPlace_ofInt64 value) nofun
  | double value =>
      rw [ne_eq, Value.double.injEq, ← Double.place_eq_none_iff]
      exact Option.ne_none_iff_exists'.symm
  | _ => exact iff_of_true trivial nofun

end Comparand

/-- This item has only one field. -/
def Item.single (field : FieldName) (value : Value) : Item :=
  [(field.text, value)]

namespace Order

/-- An item has a place in an order unless a sorted field is not a number. -/
theorem places_iff {order : Order} {item : Item} : order.Places item ↔
    ∀ entry ∈ order.entries, item.get? entry.field.text ≠ some (.double .nan) := by
  apply forall₂_congr
  intro entry _
  cases found : item.get? entry.field.text with
  | none => exact iff_of_true trivial nofun
  | some value =>
      rw [ne_eq, Option.some.injEq]
      exact Comparand.hasPlace_comparand_iff

/-- Items that share all sorted fields compare equal. -/
theorem compareByEntries_of_get?_eq {entries : List SortEntry} {left right : Item}
    (same : ∀ entry ∈ entries, left.get? entry.field.text = right.get? entry.field.text) :
    compareByEntries entries left right = .eq := by
  induction entries with
  | nil => rfl
  | cons entry rest inductionHypothesis =>
      rw [List.forall_mem_cons] at same
      rw [compareByEntries, inductionHypothesis same.2, compareByEntry, same.1,
        Comparand.sortOrder_self]
      cases entry.direction <;> rfl

/-- Only the first entry of an order decides between items that have no other field. -/
theorem compareItems_single {order : Order} {entry : SortEntry} {rest : List SortEntry}
    (entries : order.entries = entry :: rest) (left right : Value) :
    order.compareItems (Item.single entry.field left) (Item.single entry.field right) =
      match entry.direction with
      | .ascending => left.comparand.sortOrder right.comparand
      | .descending => (left.comparand.sortOrder right.comparand).swap := by
  have distinct := order.distinct
  rw [entries, List.map_cons, List.nodup_cons] at distinct
  -- An order lists its fields once, so no other entry finds the field.
  have missing (value : Value) : ∀ other ∈ rest,
      (Item.single entry.field value).get? other.field.text = none := by
    intro other member
    apply if_neg
    intro sameText
    have sameField : entry.field = other.field := FieldName.text_injective sameText
    exact distinct.1 (sameField ▸ List.mem_map_of_mem member)
  have found (value : Value) :
      (Item.single entry.field value).get? entry.field.text = some value := if_pos rfl
  have others := compareByEntries_of_get?_eq fun other member =>
    (missing left other member).trans (missing right other member).symm
  rw [compareItems, entries, compareByEntries, others, compareByEntry, found, found,
    Ordering.then_eq]
  rfl

/-- What is not a number ties with every number, whatever the direction is. -/
theorem compareItems_single_nan {order : Order} {entry : SortEntry} {rest : List SortEntry}
    (entries : order.entries = entry :: rest) (value : Double) :
    order.compareItems (Item.single entry.field (.double .nan))
      (Item.single entry.field (.double value)) = .eq := by
  have tie : (Value.double .nan).comparand.sortOrder (Value.double value).comparand = .eq :=
    Comparand.sortOrder_nan_left (.number value)
  rw [compareItems_single entries, tie]
  cases entry.direction <;> rfl

/-- An order by any field is not transitive, because both infinities tie with the same item. -/
theorem exists_greater_behind {order : Order} (sorted : order.isEmpty = false) :
    ∃ first second third : Item, order.compareItems first second ≠ .gt ∧
      order.compareItems second third ≠ .gt ∧ order.compareItems first third = .gt := by
  obtain ⟨entry, rest, entries⟩ := List.exists_cons_of_ne_nil (List.isEmpty_eq_false_iff.mp sorted)
  have before (value : Double) : order.compareItems (Item.single entry.field (.double .nan))
      (Item.single entry.field (.double value)) ≠ .gt := by
    rw [compareItems_single_nan entries]
    nofun
  have behind (value : Double) : order.compareItems (Item.single entry.field (.double value))
      (Item.single entry.field (.double .nan)) ≠ .gt := by
    rw [compareItems_swap, compareItems_single_nan entries]
    nofun
  have greater : (Comparand.number (.infinite false)).sortOrder (.number (.infinite true)) = .gt :=
    (Comparand.sortOrder_number_eq_gt_iff _ _).mpr Double.infinite_below
  cases direction : entry.direction with
  | ascending =>
      refine ⟨_, _, _, behind (.infinite false), before (.infinite true), ?_⟩
      rw [compareItems_single entries, direction]
      exact greater
  | descending =>
      refine ⟨_, _, _, behind (.infinite true), before (.infinite false), ?_⟩
      rw [compareItems_single entries, direction]
      exact (Comparand.sortOrder_swap _ _).symm.trans greater

/-- Only the order of insertion is transitive over all items. -/
theorem compareItems_trans_iff (order : Order) :
    (∀ first second third : Item, order.compareItems first second ≠ .gt →
      order.compareItems second third ≠ .gt → order.compareItems first third ≠ .gt) ↔
      order.isEmpty = true := by
  constructor
  · intro transitive
    by_contra sorted
    obtain ⟨first, second, third, left, right, above⟩ :=
      exists_greater_behind (Bool.eq_false_iff.mpr sorted)
    exact transitive first second third left right above
  · intro empty first second third left right
    have noEntries : order.entries = [] := List.isEmpty_iff.mp empty
    rw [compareItems, noEntries, compareByEntries]
    decide

/-- Sorting compares by a total preorder unless a value is not a number.

Such a value ties with every number, so a greater number may stay before a lesser one. Every order
by a field compares some items like this. -/
theorem preorder_unless_nan (left middle right : Comparand) (order : Order)
    (first second third : Item) :
    middle.sortOrder left = (left.sortOrder middle).swap ∧
      ((left.sortOrder middle ≠ .gt → middle.sortOrder right ≠ .gt → left.sortOrder right ≠ .gt) ↔
        ¬ (middle = .number .nan ∧ ∃ greater less : Double,
          left = .number greater ∧ right = .number less ∧ less.Below greater)) ∧
      order.compareItems second first = (order.compareItems first second).swap ∧
      ((∀ item ∈ [first, second, third], ∀ entry ∈ order.entries,
          item.get? entry.field.text ≠ some (.double .nan)) →
        order.compareItems first second ≠ .gt → order.compareItems second third ≠ .gt →
          order.compareItems first third ≠ .gt) ∧
      ((∀ first second third : Item, order.compareItems first second ≠ .gt →
        order.compareItems second third ≠ .gt → order.compareItems first third ≠ .gt) ↔
          order.isEmpty = true) := by
  refine ⟨left.sortOrder_swap middle, left.sortOrder_trans_iff middle right,
    order.compareItems_swap first second, ?_, order.compareItems_trans_iff⟩
  intro numbers
  simp only [List.forall_mem_cons] at numbers
  obtain ⟨firstNumbers, secondNumbers, thirdNumbers, -⟩ := numbers
  exact order.compareItems_trans (places_iff.mpr firstNumbers) (places_iff.mpr secondNumbers)
    (places_iff.mpr thirdNumbers)

/-- A missing reading sorts before a number, and this before a text. Two numbers that tie with what
is not a number may sort in the wrong direction. -/
theorem preorder_unless_nan_readings :
    let reading : FieldName := ⟨"reading", by decide⟩
    let order : Order := ⟨[⟨reading, .ascending⟩], List.nodup_singleton reading⟩
    let number := Item.single reading (.int32 1)
    let text := Item.single reading (.string "low")
    (order.compareItems [] number ≠ .gt ∧ order.compareItems number text ≠ .gt ∧
      order.compareItems [] text ≠ .gt) ∧
    ¬ ((Comparand.number (.infinite false)).sortOrder (.number .nan) ≠ .gt →
      (Comparand.number .nan).sortOrder (.number (.infinite true)) ≠ .gt →
      (Comparand.number (.infinite false)).sortOrder (.number (.infinite true)) ≠ .gt) := by
  intro reading order number text
  have numbers : ∀ item ∈ ([[], number, text] : List Item), ∀ entry ∈ order.entries,
      item.get? entry.field.text ≠ some (.double .nan) := by
    simp [order, number, text, reading, Item.single, Fields.get?]
  have left : order.compareItems [] number ≠ .gt := by decide
  have right : order.compareItems number text ≠ .gt := by decide
  obtain ⟨-, transitive, -, sorted, -⟩ := preorder_unless_nan (.number (.infinite false))
    (.number .nan) (.number (.infinite true)) order [] number text
  exact ⟨⟨left, right, sorted numbers left right⟩, fun fails =>
    transitive.mp fails ⟨rfl, .infinite false, .infinite true, rfl, rfl,
      Double.infinite_below⟩⟩

end Order

end DocumentStore
