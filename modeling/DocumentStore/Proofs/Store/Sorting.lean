import Mathlib.Data.List.Infix
import DocumentStore.Proofs.Evaluation.Order
import DocumentStore.Evaluation.Sorting

/-!
This file shows that sorting orders all items and keeps the places of items that compare equal.

While items are sorted, those that are sorted already stand in reverse.
-/

namespace DocumentStore.Order

variable (order : Order)

/-- This holds the items that have been sorted so far, the last one first. -/
def sortReversed (items : List Item) : List Item :=
  items.foldl (fun sorted item => order.insertItem item sorted) []

theorem sort_eq (items : List Item) : order.sort items = (order.sortReversed items).reverse := rfl

/-- The last item is inserted into the others once they are sorted. -/
theorem sortReversed_append (items : List Item) (item : Item) :
    order.sortReversed (items ++ [item]) = order.insertItem item (order.sortReversed items) := by
  simp [sortReversed]

/-- An insertion adds the item and loses none. -/
theorem insertItem_perm (item : Item) (sorted : List Item) :
    (order.insertItem item sorted).Perm (item :: sorted) := by
  induction sorted with
  | nil => exact .rfl
  | cons last rest inductionHypothesis =>
      rw [insertItem]
      split
      · exact (inductionHypothesis.cons last).trans (.swap item last rest)
      · exact .rfl

/-- Sorting neither adds nor loses items. -/
theorem sortReversed_perm (items : List Item) : (order.sortReversed items).Perm items := by
  induction items using List.reverseRecOn with
  | nil => exact .rfl
  | append_singleton items item inductionHypothesis =>
      rw [sortReversed_append]
      have behind : (item :: items).Perm (items ++ [item]) :=
        (List.perm_append_singleton item items).symm
      exact (order.insertItem_perm item _).trans ((inductionHypothesis.cons item).trans behind)

/-- Sorting loses no item and adds none. -/
theorem sort_perm (items : List Item) : (order.sort items).Perm items :=
  (List.reverse_perm _).trans (order.sortReversed_perm items)

/-- In the reversed list, no item precedes one that it has to follow. -/
def Descends (sorted : List Item) : Prop :=
  sorted.Pairwise fun later earlier => order.compareItems earlier later ≠ .gt

/-- An insertion keeps a descending list descending when all items have places. -/
theorem Descends.insertItem {sorted : List Item} (descends : order.Descends sorted) {item : Item}
    (places : order.Places item) (allPlaces : ∀ other ∈ sorted, order.Places other) :
    order.Descends (order.insertItem item sorted) := by
  induction sorted with
  | nil => exact List.pairwise_singleton _ _
  | cons last rest inductionHypothesis =>
      obtain ⟨belowLast, restDescends⟩ := List.pairwise_cons.mp descends
      rw [List.forall_mem_cons] at allPlaces
      obtain ⟨lastPlaces, restPlaces⟩ := allPlaces
      rw [Order.insertItem]
      split
      · next precedes =>
          apply List.pairwise_cons.mpr
          refine ⟨?_, inductionHypothesis restDescends restPlaces⟩
          intro other member
          rcases List.mem_cons.mp ((order.insertItem_perm item rest).mem_iff.mp member) with
            same | old
          · rw [same, precedes]
            decide
          · exact belowLast other old
      · next follows =>
          -- The new item follows the last one, and so all items that this one follows.
          have lastBelow : order.compareItems last item ≠ .gt := by
            rw [order.compareItems_swap item last]
            intro above
            exact follows (Ordering.swap_eq_gt.mp above)
          apply List.pairwise_cons.mpr
          refine ⟨?_, descends⟩
          intro other member
          rcases List.mem_cons.mp member with same | old
          · rw [same]
            exact lastBelow
          · exact order.compareItems_trans (restPlaces other old) lastPlaces places
              (belowLast other old) lastBelow

/-- Items with places are sorted by them. -/
theorem sortReversed_descends {items : List Item} (places : ∀ item ∈ items, order.Places item) :
    order.Descends (order.sortReversed items) := by
  induction items using List.reverseRecOn with
  | nil => exact List.Pairwise.nil
  | append_singleton items item inductionHypothesis =>
      rw [List.forall_mem_append] at places
      rw [sortReversed_append]
      have sortedPlaces : ∀ other ∈ order.sortReversed items, order.Places other := by
        intro other member
        exact places.1 other ((order.sortReversed_perm items).mem_iff.mp member)
      exact (inductionHypothesis places.1).insertItem order
        (places.2 item List.mem_cons_self) sortedPlaces

/-- No earlier item is greater than a later one. -/
theorem sort_pairwise {items : List Item} (places : ∀ item ∈ items, order.Places item) :
    (order.sort items).Pairwise fun earlier later => order.compareItems earlier later ≠ .gt := by
  rw [sort_eq, List.pairwise_reverse]
  exact order.sortReversed_descends places

/-- A new item only passes the items that it precedes. -/
theorem sublist_insertItem {item later earlier : Item} {sorted : List Item}
    (inside : [later, earlier].Sublist (order.insertItem item sorted)) :
    [later, earlier].Sublist sorted ∨ (later = item ∧ earlier ∈ sorted) ∨
      (earlier = item ∧ order.compareItems item later = .lt) := by
  -- The new item is no part of the pair, or it is the later one, or it has passed the later one.
  induction sorted with
  | nil =>
      have short := inside.length_le
      simp [insertItem] at short
  | cons last rest inductionHypothesis =>
      rw [insertItem] at inside
      split at inside
      · next precedes =>
          rcases List.sublist_cons_iff.mp inside with behind | ⟨tail, same, behind⟩
          · rcases inductionHypothesis behind with old | ⟨isItem, member⟩ | passed
            · exact .inl (old.cons last)
            · exact .inr (.inl ⟨isItem, List.mem_cons_of_mem _ member⟩)
            · exact .inr (.inr passed)
          · cases same
            have member := (order.insertItem_perm item rest).mem_iff.mp
              (List.singleton_sublist.mp behind)
            rcases List.mem_cons.mp member with isItem | old
            · exact .inr (.inr ⟨isItem, precedes⟩)
            · exact .inl ((List.singleton_sublist.mpr old).cons_cons _)
      · rcases List.sublist_cons_iff.mp inside with old | ⟨tail, same, behind⟩
        · exact .inl old
        · cases same
          exact .inr (.inl ⟨rfl, List.singleton_sublist.mp behind⟩)

/-- Equal items keep the order in which they were stored. -/
theorem sublist_of_sortReversed {later earlier : Item} {items : List Item}
    (equal : order.compareItems earlier later = .eq)
    (inside : [later, earlier].Sublist (order.sortReversed items)) :
    [earlier, later].Sublist items := by
  induction items using List.reverseRecOn with
  | nil => cases inside
  | append_singleton items item inductionHypothesis =>
      rw [sortReversed_append] at inside
      rcases order.sublist_insertItem inside with old | ⟨isItem, member⟩ | ⟨isItem, passed⟩
      · exact (inductionHypothesis old).trans (List.sublist_append_left _ _)
      · rw [isItem]
        have before : [earlier].Sublist items :=
          List.singleton_sublist.mpr ((order.sortReversed_perm items).mem_iff.mp member)
        exact before.append (.refl [item])
      · rw [← isItem, equal] at passed
        cases passed

/-- Items that compare equal keep their order. -/
theorem sort_stable {items : List Item} {earlier later : Item}
    (equal : order.compareItems earlier later = .eq)
    (inside : [earlier, later].Sublist (order.sort items)) : [earlier, later].Sublist items := by
  apply order.sublist_of_sortReversed equal
  have reversed := inside.reverse
  rwa [sort_eq, List.reverse_reverse] at reversed

/-- Without entries all items compare equal, and sorting changes nothing. -/
theorem sort_of_isEmpty (empty : order.isEmpty = true) (items : List Item) :
    order.sort items = items := by
  have insertFirst : ∀ item sorted, order.insertItem item sorted = item :: sorted := by
    intro item sorted
    have noEntries : order.entries = [] := List.isEmpty_iff.mp empty
    cases sorted with
    | nil => rfl
    | cons last rest => simp [insertItem, compareItems, noEntries, compareByEntries]
  have reversed : ∀ items, order.sortReversed items = items.reverse := by
    intro items
    induction items using List.reverseRecOn with
    | nil => rfl
    | append_singleton items item inductionHypothesis =>
        rw [sortReversed_append, insertFirst, inductionHypothesis, List.reverse_concat]
  rw [sort_eq, reversed, List.reverse_reverse]

end DocumentStore.Order
