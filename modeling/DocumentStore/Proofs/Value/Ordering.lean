import Mathlib.Data.String.Basic
import DocumentStore.Proofs.Value.Equality

/-!
This file says when a value is below another. Only scalars of one kind have an order, and the
comparison of comparands decides it for stored values.
-/

namespace DocumentStore

namespace Double

/-- A double is below another when its place on the line is. -/
def Below (left right : Double) : Prop :=
  ∃ first second, left.place = some first ∧ right.place = some second ∧ first < second

/-- Doubles compare by their places. -/
theorem compare?_eq_some_iff (left right : Double) (ordering : Ordering) :
    left.compare? right = some ordering ↔
      ∃ first second, left.place = some first ∧ right.place = some second ∧
        compare first second = ordering := by
  unfold compare?
  cases left.place <;> cases right.place <;> simp

/-- The order of doubles is that of the numbers they stand for. -/
theorem compare?_eq_lt_iff (left right : Double) :
    left.compare? right = some .lt ↔ left.Below right := by
  simp only [compare?_eq_some_iff, compare_lt_iff_lt, Below]

end Double

theorem Instant.ext_iff {left right : Instant} :
    left = right ↔ left.milliseconds.toInt = right.milliseconds.toInt := by
  cases left
  cases right
  simp [Int64.toInt_inj]

namespace Value

/-- Numbers are ordered as doubles, texts by their characters, and dates by their instants. -/
inductive Below : Value → Value → Prop
  | bool : Below (.bool false) (.bool true)
  | number {left right : Value} {first second : Double} (leftNumber : left.number? = some first)
      (rightNumber : right.number? = some second) (below : first.Below second) : Below left right
  | date {left right : Instant} (earlier : left.milliseconds.toInt < right.milliseconds.toInt) :
      Below (.date left) (.date right)
  | string {left right : String} (before : left < right) : Below (.string left) (.string right)

/-- Lists and documents are the values without an order. -/
def IsScalar : Value → Prop
  | array _ => False
  | document _ => False
  | _ => True

/-- Two scalars tie when they are the same. -/
def Ties (left right : Value) : Prop :=
  left.IsScalar ∧ left.Same right

/-- Only true stands above a flag, namely above false. -/
theorem below_bool_iff {value : Bool} {right : Value} :
    Below (.bool value) right ↔ ∃ other, right = .bool other ∧ value < other := by
  constructor
  · intro below
    cases below with
    | bool => exact ⟨true, rfl, by decide⟩
    | number leftNumber => cases leftNumber
  · rintro ⟨other, rfl, less⟩
    cases value <;> cases other <;> first | exact .bool | cases less

/-- Only later dates stand above a date. -/
theorem below_date_iff {instant : Instant} {right : Value} :
    Below (.date instant) right ↔
      ∃ other, right = .date other ∧ instant.milliseconds.toInt < other.milliseconds.toInt := by
  constructor
  · intro below
    cases below with
    | date earlier => exact ⟨_, rfl, earlier⟩
    | number leftNumber => cases leftNumber
  · rintro ⟨other, rfl, earlier⟩
    exact .date earlier

/-- Only texts stand above a text. -/
theorem below_string_iff {text : String} {right : Value} :
    Below (.string text) right ↔ ∃ other, right = .string other ∧ text < other := by
  constructor
  · intro below
    cases below with
    | string before => exact ⟨_, rfl, before⟩
    | number leftNumber => cases leftNumber
  · rintro ⟨other, rfl, before⟩
    exact .string before

/-- Only numbers stand above a number, whatever their kinds are. -/
theorem below_number_iff {left right : Value} {first : Double}
    (number : left.number? = some first) :
    left.Below right ↔ ∃ second, right.number? = some second ∧ first.Below second := by
  constructor
  · intro below
    cases below with
    | number leftNumber rightNumber below =>
        cases leftNumber.symm.trans number
        exact ⟨_, rightNumber, below⟩
    | _ => cases number
  · rintro ⟨second, rightNumber, below⟩
    exact .number number rightNumber below

/-- Nothing stands above null. -/
theorem not_null_below (right : Value) : ¬ Below .null right := by
  intro below
  cases below with
  | number leftNumber => cases leftNumber

/-- Nothing stands above a list. -/
theorem not_array_below (lefts : List Value) (right : Value) : ¬ Below (.array lefts) right := by
  intro below
  cases below with
  | number leftNumber => cases leftNumber

/-- Nothing stands above a document. -/
theorem not_document_below (lefts : Fields Value) (right : Value) :
    ¬ Below (.document lefts) right := by
  intro below
  cases below with
  | number leftNumber => cases leftNumber

end Value

namespace Comparand

/-- A comparison from the other side has the opposite outcome. -/
theorem compare?_swap (left right : Comparand) :
    right.compare? left = (left.compare? right).map Ordering.swap := by
  cases left <;> cases right <;> try rfl
  · simp only [compare?, Option.map_some, Option.some.injEq]
    exact Std.OrientedCmp.eq_swap
  · simp only [compare?, Double.compare?]
    split <;> split <;> simp_all
    exact Std.OrientedCmp.eq_swap
  · simp only [compare?, Option.map_some, Option.some.injEq]
    exact Std.OrientedCmp.eq_swap
  · simp only [compare?, Option.map_some, Option.some.injEq]
    exact Std.OrientedCmp.eq_swap

/-- The comparison of stored values tells which is below the other. -/
theorem compare?_comparand_eq_lt_iff {left right : Value} (leftStorable : left.Storable)
    (rightStorable : right.Storable) :
    left.comparand.compare? right.comparand = some .lt ↔ left.Below right := by
  cases leftStorable with
  | null => cases rightStorable <;> simp [Value.comparand, compare?, Value.not_null_below]
  | bool value =>
      rw [Value.below_bool_iff]
      cases rightStorable <;> simp [Value.comparand, compare?, compare_lt_iff_lt]
  | date instant =>
      rw [Value.below_date_iff]
      cases rightStorable <;> simp [Value.comparand, compare?, compare_lt_iff_lt]
  | string text =>
      rw [Value.below_string_iff]
      cases rightStorable <;> simp [Value.comparand, compare?, compare_lt_iff_lt]
  | int32 _ | int64 _ | double _ =>
      rw [Value.below_number_iff (Value.number?.eq_def _)]
      cases rightStorable <;>
        simp [Value.comparand, compare?, Value.number?, Double.compare?_eq_lt_iff]
  | array elements =>
      cases rightStorable <;> simp [Value.comparand, compare?, Value.not_array_below]
  | document distinct members =>
      cases rightStorable <;> simp [Value.comparand, compare?, Value.not_document_below]

/-- The comparison is the same from the other side. -/
theorem compare?_comparand_eq_gt_iff {left right : Value} (leftStorable : left.Storable)
    (rightStorable : right.Storable) :
    left.comparand.compare? right.comparand = some .gt ↔ right.Below left := by
  rw [← compare?_comparand_eq_lt_iff rightStorable leftStorable,
    compare?_swap left.comparand right.comparand]
  cases left.comparand.compare? right.comparand with
  | none => simp
  | some ordering => cases ordering <;> simp

/-- Stored values compare equal when they tie. -/
theorem compare?_comparand_eq_eq_iff {left right : Value} (leftStorable : left.Storable)
    (rightStorable : right.Storable) :
    left.comparand.compare? right.comparand = some .eq ↔ left.Ties right := by
  rw [Value.Ties, ← Value.equal_comparand_iff leftStorable rightStorable]
  cases leftStorable <;> cases rightStorable <;>
    simp [Value.comparand, compare?, Value.IsScalar, equal, Double.equal, Instant.ext_iff]

end Comparand

end DocumentStore
