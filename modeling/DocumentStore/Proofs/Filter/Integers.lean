import DocumentStore.Proofs.Double.Monotone
import DocumentStore.Proofs.Filter.Comparison
import DocumentStore.Proofs.Store.Sorting

/-!
This file compares integers in filters and orders. Integers of both widths compare as their nearest
doubles, so different integers tie when they share one.
-/

namespace DocumentStore

namespace Value

/-- Integers are stored in two widths. -/
def integer? : Value → Option Int
  | int32 value => some value.toInt
  | int64 value => some value.toInt
  | _ => none

/-- The integers of a value have at most 64 bits. -/
theorem natAbs_of_integer? {value : Value} {integer : Int}
    (found : value.integer? = some integer) : integer.natAbs < 18446744073709551616 := by
  cases value with
  | int32 value | int64 value =>
      cases found
      have lower := value.le_toInt
      have upper := value.toInt_lt
      omega
  | _ => cases found

/-- An integer compares as the nearest double. -/
theorem comparand_of_integer? {value : Value} {integer : Int}
    (found : value.integer? = some integer) :
    value.comparand = .number (Double.ofInt integer) := by
  cases value with
  | int32 _ | int64 _ =>
      cases found
      rfl
  | _ => cases found

/-- An integer is not empty, and it does not name a date. -/
theorem plain_of_integer? {value : Value} {integer : Int} (found : value.integer? = some integer) :
    value.isAbsent = false ∧ value.decodeDate = value := by
  cases value with
  | int32 _ | int64 _ => exact ⟨rfl, rfl⟩
  | _ => cases found

/-- An integer of 64 bits is read exactly. -/
theorem integer?_ofInteger {integer : Int} (lower : -9223372036854775808 ≤ integer)
    (upper : integer < 9223372036854775808) : (ofInteger integer).integer? = some integer := by
  by_cases narrow : -2147483648 ≤ integer ∧ integer < 2147483648
  · rw [ofInteger, if_pos narrow]
    exact congrArg some (Int32.toInt_ofInt_of_le narrow.1 narrow.2)
  · rw [ofInteger, if_neg narrow, if_pos upper]
    exact congrArg some (Int64.toInt_ofInt_of_le lower upper)

end Value

/-- This is the integer that an item holds in a field. -/
def Item.integer? (item : Item) (field : FieldName) : Option Int :=
  (Fields.get? item field.text).bind Value.integer?

/-- Integers round alike when one double is nearest to both. -/
def RoundAlike (left right : Int) : Prop :=
  (Double.ofInt left).Same (Double.ofInt right)

namespace Comparison

/-- This is what a comparison asks of two integers. -/
def Between : Comparison → Int → Int → Prop
  | eq, left, right => left = right
  | ne, left, right => left ≠ right
  | lt, left, right => left < right
  | lte, left, right => left ≤ right
  | gt, left, right => right < left
  | gte, left, right => right ≤ left

/-- A comparison admits what lies between its integers. -/
theorem admits_compare_iff (comparison : Comparison) (left right : Int) :
    comparison.admits (compare left right) = true ↔ comparison.Between left right := by
  cases comparison with
  | eq => exact Ordering.isEq_iff_eq_eq.trans compare_eq_iff_eq
  | ne => exact Ordering.isNe_iff_ne_eq.trans compare_eq_iff_eq.not
  | lt => exact Ordering.isLT_iff_eq_lt.trans compare_lt_iff_lt
  | lte => exact Ordering.isLE_iff_ne_gt.trans compare_le_iff_le
  | gt => exact Ordering.isGT_iff_eq_gt.trans compare_gt_iff_gt
  | gte => exact Ordering.isGE_iff_ne_lt.trans compare_ge_iff_ge

/-- Integers that tie satisfy equality and the inclusive bounds. -/
theorem admits_eq_iff (comparison : Comparison) :
    comparison.admits .eq = true ↔ comparison = .eq ∨ comparison.IsInclusive := by
  cases comparison <;> simp [admits, IsInclusive]

/-- The comparison of two numbers decides. -/
theorem holds_number (comparison : Comparison) {stored value : Value} {left right : Double}
    {ordering : Ordering} (storedNumber : stored.comparand = .number left)
    (number : value.comparand = .number right) (compared : left.compare? right = some ordering) :
    comparison.holds (some stored) value = comparison.admits ordering := by
  have equality : fieldEquals (some stored) value = ordering.isEq := by
    have scalar : stored.IsScalar := by
      rw [← Value.isScalar_comparand_iff, storedNumber]
      trivial
    rw [Value.fieldEquals_of_isScalar scalar, storedNumber, number]
    cases ordering <;> simp [Comparand.equal, Double.equal, compared]
  have order (bound : Comparison) : bound.orders (some stored) value = bound.admits ordering := by
    rw [orders, storedNumber, number, Comparand.compare?, compared, Option.any_some]
  cases comparison with
  | eq => exact equality
  | ne =>
      rw [holds, equality]
      cases ordering <;> rfl
  | lt => exact order lt
  | lte => exact order lte
  | gt => exact order gt
  | gte => exact order gte

variable {stored value : Value} {left right : Int}

/-- Integers are compared by the doubles they are rounded to. -/
theorem answer_integers (comparison : Comparison) {ordering : Ordering}
    (storedFound : stored.integer? = some left) (found : value.integer? = some right)
    (compared : (Double.ofInt left).compare? (Double.ofInt right) = some ordering) :
    comparison.answer (some stored) value = comparison.admits ordering := by
  obtain ⟨present, same⟩ := Value.plain_of_integer? found
  have holds := comparison.holds_number (Value.comparand_of_integer? storedFound)
    (Value.comparand_of_integer? found) compared
  unfold answer
  rw [present, same, holds]
  cases comparison <;> rfl

/-- Different doubles keep the order of their integers. -/
theorem answer_of_not_roundAlike (comparison : Comparison)
    (storedFound : stored.integer? = some left) (found : value.integer? = some right)
    (apart : ¬ RoundAlike left right) :
    comparison.answer (some stored) value = true ↔ comparison.Between left right := by
  rw [comparison.answer_integers storedFound found (Double.compare?_ofInt_of_not_same
    (Value.natAbs_of_integer? storedFound) (Value.natAbs_of_integer? found) apart),
    admits_compare_iff]

/-- Integers that are rounded alike count as equal. -/
theorem answer_of_roundAlike (comparison : Comparison)
    (storedFound : stored.integer? = some left) (found : value.integer? = some right)
    (alike : RoundAlike left right) :
    comparison.answer (some stored) value = true ↔ comparison = .eq ∨ comparison.IsInclusive := by
  rw [comparison.answer_integers storedFound found (beq_iff_eq.mp
    ((Double.equal_iff _ _).mpr alike)), admits_eq_iff]

end Comparison

/-- A direction lets the lesser or the greater integers come first. -/
def Direction.Between : Direction → Int → Int → Prop
  | ascending, first, second => first ≤ second
  | descending, first, second => second ≤ first

/-- Items are sorted by integers when only those that round alike can stand the other way round,
and these keep their places. -/
structure Direction.Sorts (direction : Direction) (integer : Item → Int)
    (items sorted : List Item) : Prop where
  perm : sorted.Perm items
  ordered : sorted.Pairwise fun earlier later =>
    direction.Between (integer earlier) (integer later) ∨
      RoundAlike (integer earlier) (integer later)
  stable : ∀ earlier later, RoundAlike (integer earlier) (integer later) →
    [earlier, later].Sublist sorted → [earlier, later].Sublist items

namespace Order

variable {entry : SortEntry} {earlier later : Item} {first second : Int}

/-- A field with an integer sorts as the nearest double. -/
theorem ofField_of_integer? {field : FieldName} {item : Item} {integer : Int}
    (found : item.integer? field = some integer) :
    Comparand.ofField (item.get? field.text) = .number (Double.ofInt integer) ∧
      integer.natAbs < 18446744073709551616 := by
  obtain ⟨value, held, found⟩ := Option.bind_eq_some_iff.mp found
  rw [held]
  exact ⟨Value.comparand_of_integer? found, Value.natAbs_of_integer? found⟩

/-- Items with integers are compared as the doubles of these. -/
theorem compareItems_integers {ordering : Ordering}
    (earlierFound : earlier.integer? entry.field = some first)
    (laterFound : later.integer? entry.field = some second)
    (compared : (Double.ofInt first).compare? (Double.ofInt second) = some ordering) :
    (ofList [entry]).compareItems earlier later =
      match entry.direction with
      | .ascending => ordering
      | .descending => ordering.swap := by
  change (compareByEntry entry earlier later).then .eq = _
  rw [Ordering.then_eq, compareByEntry, (ofField_of_integer? earlierFound).1,
    (ofField_of_integer? laterFound).1, Comparand.sortOrder, Comparand.compare?, compared]
  rfl

/-- Items that are sorted stand in the order of their integers, unless these are rounded alike. -/
theorem between_of_compareItems (earlierFound : earlier.integer? entry.field = some first)
    (laterFound : later.integer? entry.field = some second) (apart : ¬ RoundAlike first second)
    (inOrder : (ofList [entry]).compareItems earlier later ≠ .gt) :
    entry.direction.Between first second := by
  rw [compareItems_integers earlierFound laterFound (Double.compare?_ofInt_of_not_same
    (ofField_of_integer? earlierFound).2 (ofField_of_integer? laterFound).2 apart)] at inOrder
  cases direction : entry.direction with
  | ascending =>
      rw [direction] at inOrder
      exact compare_le_iff_le.mp inOrder
  | descending =>
      rw [direction] at inOrder
      exact compare_ge_iff_ge.mp (Ordering.swap_eq_gt.not.mp inOrder)

/-- Items whose integers are rounded alike keep their order. -/
theorem compareItems_of_roundAlike (earlierFound : earlier.integer? entry.field = some first)
    (laterFound : later.integer? entry.field = some second) (alike : RoundAlike first second) :
    (ofList [entry]).compareItems earlier later = .eq := by
  rw [compareItems_integers earlierFound laterFound
    (beq_iff_eq.mp ((Double.equal_iff _ _).mpr alike))]
  cases entry.direction <;> rfl

/-- A sorted list follows the integers up to rounding. -/
theorem sorts_integers (entry : SortEntry) {items : List Item} {integer : Item → Int}
    (found : ∀ item ∈ items, item.integer? entry.field = some (integer item)) :
    entry.direction.Sorts integer items ((ofList [entry]).sort items) := by
  have places : ∀ item ∈ items, (ofList [entry]).Places item := by
    intro item member other listed
    cases List.mem_singleton.mp listed
    obtain ⟨number, bound⟩ := ofField_of_integer? (found item member)
    rw [number]
    exact Comparand.hasPlace_ofInt bound
  have sortedFound : ∀ item ∈ (ofList [entry]).sort items,
      item.integer? entry.field = some (integer item) := by
    intro item member
    exact found item ((sort_perm _ items).mem_iff.mp member)
  constructor
  · exact sort_perm _ items
  · refine (sort_pairwise _ places).imp_of_mem ?_
    intro earlier later earlierMember laterMember inOrder
    by_cases alike : RoundAlike (integer earlier) (integer later)
    · exact .inr alike
    · exact .inl (between_of_compareItems (sortedFound _ earlierMember)
        (sortedFound _ laterMember) alike inOrder)
  · intro earlier later alike inside
    have earlierMember := inside.subset List.mem_cons_self
    have laterMember := inside.subset (List.mem_cons_of_mem _ List.mem_cons_self)
    exact sort_stable _ (compareItems_of_roundAlike (sortedFound _ earlierMember)
      (sortedFound _ laterMember) alike) inside

end Order

namespace Filter

/-- Comparisons of integers are exact unless the integers round alike. Integers that round alike are
close to each other, and they are the same when both have at most 53 bits. They satisfy equality and
the inclusive bounds, and their items keep their places when they are sorted. -/
theorem integers_compare_rounded (field : FieldName) :
    (∀ (comparison : Comparison) {item : Item} {value : Value} {left right : Int},
      item.integer? field = some left → value.integer? = some right →
      ∃ predicate answer, compile (.leaf (.compare comparison) field value) = .ok predicate ∧
        (∀ cache, (predicate.evaluate item cache).1 = .ok answer) ∧
        (¬ RoundAlike left right → (answer = true ↔ comparison.Between left right)) ∧
        (RoundAlike left right → (answer = true ↔ comparison = .eq ∨ comparison.IsInclusive))) ∧
    (∀ {left right : Int}, left.natAbs < 18446744073709551616 →
      right.natAbs < 18446744073709551616 → RoundAlike left right →
      (left - right).natAbs * 2 ^ 53 ≤ left.natAbs + right.natAbs ∧
        (left.natAbs ≤ 2 ^ 53 → right.natAbs ≤ 2 ^ 53 → left = right)) ∧
    (∀ {integer : Int} (lower : -9223372036854775808 ≤ integer)
      (upper : integer < 18446744073709551616), integer < 9223372036854775808 →
      (Value.ofJson (.number (.integer integer lower upper))).integer? = some integer) ∧
    ∀ (direction : Direction) {items : List Item} {integer : Item → Int},
      (∀ item ∈ items, item.integer? field = some (integer item)) →
      direction.Sorts integer items ((Order.ofList [⟨field, direction⟩]).sort items) := by
  refine ⟨?_, ?_, ?_, ?_⟩
  · intro comparison item value left right itemFound found
    obtain ⟨stored, held, storedFound⟩ := Option.bind_eq_some_iff.mp itemFound
    refine ⟨_, comparison.answer (some stored) value, rfl, ?_, ?_, ?_⟩
    · intro cache
      rw [Predicate.evaluate_fst, verdict_compileComparison, held]
    · exact comparison.answer_of_not_roundAlike storedFound found
    · exact comparison.answer_of_roundAlike storedFound found
  · intro left right leftBound rightBound alike
    refine ⟨Double.near_of_same_ofInt leftBound rightBound alike, ?_⟩
    intro leftSmall rightSmall
    exact Double.eq_of_same_ofInt leftSmall rightSmall alike
  · intro integer lower upper fits
    exact Value.integer?_ofInteger lower fits
  · intro direction items integer found
    exact Order.sorts_integers ⟨field, direction⟩ found

def sizeField : FieldName :=
  ⟨"size", rfl⟩

/-- Integers of both widths are ordered together. -/
theorem integers_compare_rounded_widths :
    let five : Item := [("size", .int32 5)]
    let seven : Item := [("size", .int64 7)]
    (∃ predicate, compile (.leaf (.compare .lt) sizeField (.int64 7)) = .ok predicate ∧
      (predicate.evaluate five .empty).1 = .ok true) ∧
    Direction.ascending.Sorts (fun item => (item.integer? sizeField).getD 0) [seven, five]
      ((Order.ofList [⟨sizeField, .ascending⟩]).sort [seven, five]) := by
  intro five seven
  obtain ⟨compared, close, -, sorted⟩ := integers_compare_rounded sizeField
  constructor
  · obtain ⟨predicate, answer, compiled, answered, apart, -⟩ := compared .lt
      (rfl : five.integer? sizeField = some 5) (rfl : (Value.int64 7).integer? = some 7)
    have different : ¬ RoundAlike 5 7 := by
      intro alike
      obtain ⟨-, exact⟩ := close (by decide) (by decide) alike
      exact absurd (exact (by decide) (by decide)) (by decide)
    have less : answer = true := (apart different).mpr (by decide : (5 : Int) < 7)
    exact ⟨predicate, compiled, less ▸ answered .empty⟩
  · apply sorted
    intro item member
    rcases List.mem_pair.mp member with rfl | rfl
    · rfl
    · rfl

/-- Two large neighbours share a double, so they are equal, and the greater one stays first. -/
theorem eq_of_neighbours :
    let greater : Item := [("size", .int64 9007199254740993)]
    let smaller : Item := [("size", .int64 9007199254740992)]
    (∃ predicate,
      compile (.leaf (.compare .eq) sizeField (.int64 9007199254740992)) = .ok predicate ∧
        (predicate.evaluate greater .empty).1 = .ok true) ∧
    (Order.ofList [⟨sizeField, .ascending⟩]).sort [greater, smaller] = [greater, smaller] := by
  intro greater smaller
  constructor
  · refine ⟨_, rfl, ?_⟩
    rw [Predicate.evaluate_fst, verdict_compileComparison]
    apply congrArg
    decide +kernel
  · have stays : (Order.ofList [⟨sizeField, .ascending⟩]).compareItems smaller greater ≠ .lt := by
      decide +kernel
    rw [Order.sort, List.foldl_cons, List.foldl_cons, List.foldl_nil, Order.insertItem,
      Order.insertItem, if_neg stays, List.reverse_cons, List.reverse_singleton,
      List.singleton_append]

end Filter

end DocumentStore
