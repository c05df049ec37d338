import Mathlib.Data.List.Forall2
import Mathlib.Data.List.Perm.Subperm
import DocumentStore.Evaluation.Comparand
import DocumentStore.Proofs.Value.Storable

/-!
This file says when two values are the same, without regard to their kinds of numbers and to the
order of the keys in a document. The comparison of comparands decides it for stored values.
-/

namespace DocumentStore

/-- Two doubles are the same number when they share a place on the line. -/
def Double.Same (left right : Double) : Prop :=
  ∃ place, left.place = some place ∧ right.place = some place

/-- The equality of doubles compares their places. -/
theorem Double.equal_iff (left right : Double) : left.equal right = true ↔ left.Same right := by
  unfold Double.equal Double.compare? Double.Same
  cases left.place with
  | none => cases right.place <;> simp
  | some first =>
      cases right.place with
      | none => simp
      | some second => simp [eq_comm (a := first)]

/-- A finite number is the same as itself. -/
theorem Double.same_finite (number : FiniteDouble) : (finite number).Same (finite number) :=
  ⟨number.units, place_finite number, place_finite number⟩

/-- An integer is never rounded to what is not a number. -/
theorem Double.same_ofInt (value : Int) (bound : value.natAbs < 18446744073709551616) :
    (ofInt value).Same (ofInt value) := by
  obtain ⟨number, rounded⟩ := exists_ofInt_eq_finite value bound
  rw [rounded]
  exact same_finite number

namespace Value

/-- Integers and doubles stand for doubles. -/
def number? : Value → Option Double
  | int32 value => some (Double.ofInt value.toInt)
  | int64 value => some (Double.ofInt value.toInt)
  | double value => some value
  | _ => none

/-- Every number from JSON is an integer or a double. -/
theorem exists_number_ofNumber (number : JsonNumber) :
    ∃ double, (ofNumber number).number? = some double := by
  cases number with
  | integer value =>
      change ∃ double, (ofInteger value).number? = some double
      unfold ofInteger
      split
      · exact ⟨_, rfl⟩
      · split <;> exact ⟨_, rfl⟩
  | double number => exact ⟨_, rfl⟩

mutual

/-- Numbers are the same as doubles, and documents are the same in some order of their keys. -/
inductive Same : Value → Value → Prop
  | null : Same .null .null
  | bool (value : Bool) : Same (.bool value) (.bool value)
  | date (instant : Instant) : Same (.date instant) (.date instant)
  | string (text : String) : Same (.string text) (.string text)
  | number {left right : Value} {first second : Double} (leftNumber : left.number? = some first)
      (rightNumber : right.number? = some second) (same : first.Same second) : Same left right
  | array {lefts rights : List Value} (elements : SameList lefts rights) :
      Same (.array lefts) (.array rights)
  | document {lefts rights ordered : Fields Value} (order : ordered.Perm rights)
      (members : SameFields lefts ordered) : Same (.document lefts) (.document rights)

/-- Lists are the same when their elements are the same one by one. -/
inductive SameList : List Value → List Value → Prop
  | nil : SameList [] []
  | cons {left right : Value} {lefts rights : List Value} (first : Same left right)
      (rest : SameList lefts rights) : SameList (left :: lefts) (right :: rights)

/-- Fields in one order are the same when they have the same keys and values. -/
inductive SameFields : Fields Value → Fields Value → Prop
  | nil : SameFields [] []
  | cons {left right : Value} {lefts rights : Fields Value} (key : String)
      (first : Same left right) (rest : SameFields lefts rights) :
      SameFields ((key, left) :: lefts) ((key, right) :: rights)

end

/-- Only null is the same as null. -/
theorem same_null_iff {right : Value} : Same .null right ↔ right = .null := by
  constructor
  · intro same
    cases same with
    | null => rfl
    | number leftNumber => cases leftNumber
  · rintro rfl
    exact .null

/-- Null is the same as nothing else on the left side either. -/
theorem same_right_null_iff {left : Value} : Same left .null ↔ left = .null := by
  constructor
  · intro same
    cases same with
    | null => rfl
    | number _ rightNumber => cases rightNumber
  · rintro rfl
    exact .null

/-- A flag is only the same as itself. -/
theorem same_bool_iff {value : Bool} {right : Value} :
    Same (.bool value) right ↔ right = .bool value := by
  constructor
  · intro same
    cases same with
    | bool => rfl
    | number leftNumber => cases leftNumber
  · rintro rfl
    exact .bool value

/-- A date is only the same as itself, and no text or number stands for it. -/
theorem same_date_iff {instant : Instant} {right : Value} :
    Same (.date instant) right ↔ right = .date instant := by
  constructor
  · intro same
    cases same with
    | date => rfl
    | number leftNumber => cases leftNumber
  · rintro rfl
    exact .date instant

/-- A date is the same as nothing else on the left side either. -/
theorem same_right_date_iff {left : Value} {instant : Instant} :
    Same left (.date instant) ↔ left = .date instant := by
  constructor
  · intro same
    cases same with
    | date => rfl
    | number _ rightNumber => cases rightNumber
  · rintro rfl
    exact .date instant

/-- A text is only the same as itself. -/
theorem same_string_iff {text : String} {right : Value} :
    Same (.string text) right ↔ right = .string text := by
  constructor
  · intro same
    cases same with
    | string => rfl
    | number leftNumber => cases leftNumber
  · rintro rfl
    exact .string text

/-- A number is the same as the numbers with its place. -/
theorem same_number_iff {left right : Value} {first : Double} (number : left.number? = some first) :
    left.Same right ↔ ∃ second, right.number? = some second ∧ first.Same second := by
  constructor
  · intro same
    cases same with
    | number leftNumber rightNumber same =>
        cases leftNumber.symm.trans number
        exact ⟨_, rightNumber, same⟩
    | _ => cases number
  · rintro ⟨second, rightNumber, same⟩
    exact .number number rightNumber same

/-- A list is only the same as a list, with the same elements in order. -/
theorem same_array_iff {lefts : List Value} {right : Value} :
    Same (.array lefts) right ↔ ∃ rights, right = .array rights ∧ SameList lefts rights := by
  constructor
  · intro same
    cases same with
    | array elements => exact ⟨_, rfl, elements⟩
    | number leftNumber => cases leftNumber
  · rintro ⟨rights, rfl, elements⟩
    exact .array elements

/-- A document is only the same as a document, up to the order of its fields. -/
theorem same_document_iff {lefts : Fields Value} {right : Value} :
    Same (.document lefts) right ↔
      ∃ rights ordered : Fields Value,
        right = .document rights ∧ ordered.Perm rights ∧ SameFields lefts ordered := by
  constructor
  · intro same
    cases same with
    | document order members => exact ⟨_, _, rfl, order, members⟩
    | number leftNumber => cases leftNumber
  · rintro ⟨rights, ordered, rfl, order, members⟩
    exact .document order members

/-- The relation of lists is the one of the library. -/
theorem sameList_iff_forall₂ {lefts rights : List Value} :
    SameList lefts rights ↔ List.Forall₂ Same lefts rights := by
  constructor
  · intro same
    induction lefts generalizing rights with
    | nil =>
        cases same
        exact .nil
    | cons left lefts inductionHypothesis =>
        cases same with
        | cons first rest => exact .cons first (inductionHypothesis rest)
  · intro same
    induction same with
    | nil => exact .nil
    | cons first rest inductionHypothesis => exact .cons first inductionHypothesis

/-- Fields that are the same are equally many. -/
theorem SameFields.length_eq {lefts rights : Fields Value} (same : SameFields lefts rights) :
    lefts.length = rights.length := by
  induction lefts generalizing rights with
  | nil =>
      cases same
      rfl
  | cons field lefts inductionHypothesis =>
      cases same with
      | cons key first rest => exact congrArg Nat.succ (inductionHypothesis rest)

/-- Every field has a partner with the same key. -/
theorem SameFields.exists_mem {lefts rights : Fields Value} (same : SameFields lefts rights)
    {key : String} {left : Value} (member : (key, left) ∈ lefts) :
    ∃ right, (key, right) ∈ rights ∧ left.Same right := by
  induction lefts generalizing rights with
  | nil => cases member
  | cons field lefts inductionHypothesis =>
      cases same with
      | cons name first rest =>
          rcases List.mem_cons.mp member with same | later
          · cases same
            exact ⟨_, List.mem_cons_self, first⟩
          · obtain ⟨right, found, rightSame⟩ := inductionHypothesis rest later
            exact ⟨right, List.mem_cons_of_mem _ found, rightSame⟩

/-- This takes the fields of the right side in the order of the keys on the left. -/
theorem exists_sameFields {lefts rights : Fields Value}
    (found : ∀ field ∈ lefts, ∃ right, (field.1, right) ∈ rights ∧ field.2.Same right) :
    ∃ ordered, SameFields lefts ordered ∧ ordered ⊆ rights ∧
      ordered.map Prod.fst = lefts.map Prod.fst := by
  induction lefts with
  | nil => exact ⟨[], .nil, by simp, rfl⟩
  | cons field lefts inductionHypothesis =>
      obtain ⟨key, left⟩ := field
      obtain ⟨first, restFound⟩ := List.forall_mem_cons.mp found
      obtain ⟨right, member, same⟩ := first
      obtain ⟨ordered, sameRest, inside, sameKeys⟩ := inductionHypothesis restFound
      exact ⟨(key, right) :: ordered, .cons key same sameRest,
        List.cons_subset.mpr ⟨member, inside⟩, by simp [sameKeys]⟩

/-- Distinct documents are the same when they have as many fields and every key of the left has
the same value on the right. -/
theorem same_document_iff_get? {lefts rights : Fields Value} (leftDistinct : lefts.Distinct)
    (rightDistinct : rights.Distinct) :
    Same (.document lefts) (.document rights) ↔
      lefts.length = rights.length ∧
        ∀ field ∈ lefts, ∃ right, rights.get? field.1 = some right ∧ field.2.Same right := by
  rw [same_document_iff]
  constructor
  · rintro ⟨_, ordered, equal, order, members⟩
    cases equal
    refine ⟨members.length_eq.trans order.length_eq, ?_⟩
    intro field member
    obtain ⟨right, found, same⟩ := members.exists_mem member
    exact ⟨right, rightDistinct.get?_of_mem (order.mem_iff.mp found), same⟩
  · rintro ⟨sameLength, found⟩
    have stored : ∀ field ∈ lefts, ∃ right, (field.1, right) ∈ rights ∧ field.2.Same right := by
      intro field member
      obtain ⟨right, known, same⟩ := found field member
      exact ⟨right, Fields.mem_of_get? known, same⟩
    obtain ⟨ordered, members, inside, sameKeys⟩ := exists_sameFields stored
    have nodup : ordered.Nodup := by
      apply List.Nodup.of_map Prod.fst
      rw [sameKeys]
      exact leftDistinct
    -- Partners with distinct keys, as many as the fields on the right, are all of these.
    have order : ordered.Perm rights := (nodup.subperm inside).perm_of_length_le
      (Nat.le_of_eq (sameLength.symm.trans members.length_eq))
    exact ⟨rights, ordered, rfl, order, members⟩

/-- A list is the same as itself when all its elements are. -/
theorem sameList_refl {values : List Value} (same : ∀ value ∈ values, value.Same value) :
    SameList values values :=
  sameList_iff_forall₂.mpr (List.forall₂_same.mpr same)

/-- No stored number is not a number, so every stored value is the same as itself. -/
theorem Storable.same_refl {value : Value} (storable : value.Storable) : value.Same value := by
  induction storable with
  | null => exact .null
  | bool value => exact .bool value
  | date instant => exact .date instant
  | string text => exact .string text
  | int32 value | int64 value =>
      have lower := value.le_toInt
      have upper := value.toInt_lt
      exact .number rfl rfl (Double.same_ofInt _ (by omega))
  | double number => exact .number rfl rfl (Double.same_finite number)
  | array elements inductionHypothesis => exact .array (sameList_refl inductionHypothesis)
  | document distinct members inductionHypothesis =>
      apply (same_document_iff_get? distinct distinct).mpr
      refine ⟨rfl, ?_⟩
      intro field member
      exact ⟨field.2, distinct.get?_of_mem member, inductionHypothesis field member⟩

@[simp] theorem comparandList_eq_map (values : List Value) :
    comparandList values = values.map comparand := by
  induction values with
  | nil => rfl
  | cons value rest inductionHypothesis =>
      rw [comparandList, inductionHypothesis, List.map_cons]

@[simp] theorem comparandFields_eq_map (fields : Fields Value) :
    comparandFields fields = fields.map fun field => (field.1, field.2.comparand) := by
  induction fields with
  | nil => rfl
  | cons field rest inductionHypothesis =>
      rw [comparandFields, inductionHypothesis, List.map_cons]

end Value

namespace Comparand

/-- The comparison of lists goes through their elements in pairs. -/
theorem equalList_map_iff {lefts rights : List Value} :
    equalList (lefts.map Value.comparand) (rights.map Value.comparand) = true ↔
      List.Forall₂ (fun left right => left.comparand.equal right.comparand = true)
        lefts rights := by
  induction lefts generalizing rights with
  | nil => cases rights <;> simp [equalList]
  | cons left lefts inductionHypothesis =>
      cases rights <;> simp [equalList, inductionHypothesis]

/-- The comparison of documents looks for the keys of the left on the right. -/
theorem equalFields_map_iff {lefts rights : Fields Value} :
    equalFields (lefts.map fun field => (field.1, field.2.comparand))
        (rights.map fun field => (field.1, field.2.comparand)) = true ↔
      ∀ field ∈ lefts, ∃ right, rights.get? field.1 = some right ∧
        field.2.comparand.equal right.comparand = true := by
  induction lefts with
  | nil => simp [equalFields]
  | cons field lefts inductionHypothesis =>
      rw [List.map_cons, equalFields, Bool.and_eq_true, inductionHypothesis,
        List.forall_mem_cons, Fields.get?_mapValues rights fun _ => Value.comparand]
      cases rights.get? field.1 <;> simp

end Comparand

namespace Value

/-- The comparison of comparands decides which stored values are the same. -/
theorem equal_comparand_iff {left right : Value} (leftStorable : left.Storable)
    (rightStorable : right.Storable) :
    left.comparand.equal right.comparand = true ↔ left.Same right := by
  induction leftStorable generalizing right with
  | null =>
      rw [same_null_iff]
      cases rightStorable <;> simp [comparand, Comparand.equal]
  | bool value =>
      rw [same_bool_iff]
      cases rightStorable <;> simp [comparand, Comparand.equal, eq_comm]
  | date instant =>
      rw [same_date_iff]
      cases rightStorable <;> simp [comparand, Comparand.equal, eq_comm]
  | string text =>
      rw [same_string_iff]
      cases rightStorable <;> simp [comparand, Comparand.equal, eq_comm]
  | int32 _ | int64 _ | double _ =>
      rw [same_number_iff (number?.eq_def _)]
      cases rightStorable <;> simp [comparand, Comparand.equal, number?, Double.equal_iff]
  | array elements inductionHypothesis =>
      rw [same_array_iff]
      cases rightStorable with
      | array rightElements =>
          simp only [comparand, comparandList_eq_map, Comparand.equal, Value.array.injEq,
            exists_eq_left', Comparand.equalList_map_iff, sameList_iff_forall₂,
            List.forall₂_iff_zip]
          apply and_congr_right
          intro sameLength
          apply forall₂_congr
          intro first second
          apply imp_congr_right
          intro pair
          obtain ⟨leftMember, rightMember⟩ := List.of_mem_zip pair
          exact inductionHypothesis first leftMember (rightElements second rightMember)
      | _ => simp [comparand, Comparand.equal]
  | document distinct members inductionHypothesis =>
      cases rightStorable with
      | document rightDistinct rightMembers =>
          -- Distinct keys make a search by key the same as a pairing of the fields.
          rw [same_document_iff_get? distinct rightDistinct]
          simp only [comparand, comparandFields_eq_map, Comparand.equal, Bool.and_eq_true,
            decide_eq_true_eq, List.length_map, Comparand.equalFields_map_iff]
          apply and_congr_right
          intro sameLength
          apply forall₂_congr
          intro field member
          apply exists_congr
          intro found
          apply and_congr_right
          intro known
          exact inductionHypothesis field member (rightMembers _ (Fields.mem_of_get? known))
      | _ =>
          rw [same_document_iff]
          simp [comparand, Comparand.equal]

end Value

end DocumentStore
