import Mathlib.Logic.Relation
import DocumentStore.Proofs.Evaluation.Field
import DocumentStore.Proofs.Value.Renaming

/-!
This file shows that the equality of values is a partial equivalence.

Two values agree when they are equal for the comparisons. Agreement is symmetric and transitive, and
a value agrees with itself unless it holds a double that is not a number. Neither the order of the
keys in a document nor the kind of an integer or double matters to it. Decimal numbers and pieces of
code have no order of their own, so all of them agree with null.
-/

namespace DocumentStore

namespace Double

/-- A place may be read from both sides. -/
theorem Same.symm {left right : Double} (same : left.Same right) : right.Same left := by
  obtain ⟨place, first, second⟩ := same
  exact ⟨place, second, first⟩

/-- Numbers that share places with one number share them with each other. -/
theorem Same.trans {first second third : Double} (left : first.Same second)
    (right : second.Same third) : first.Same third := by
  obtain ⟨place, firstPlace, secondPlace⟩ := left
  obtain ⟨other, found, thirdPlace⟩ := right
  cases secondPlace.symm.trans found
  exact ⟨place, firstPlace, thirdPlace⟩

/-- Only what is not a number is not the same as itself. -/
theorem same_self_iff {value : Double} : value.Same value ↔ value ≠ .nan := by
  rw [ne_eq, ← place_eq_none_iff]
  constructor
  · rintro ⟨place, known, -⟩ missing
    cases known.symm.trans missing
  · intro present
    obtain ⟨place, known⟩ := Option.ne_none_iff_exists'.mp present
    exact ⟨place, known, known⟩

/-- Integers are rounded to finite numbers. -/
theorem ofInt_ne_nan {integer : Int} (bound : integer.natAbs < 18446744073709551616) :
    ofInt integer ≠ nan := by
  obtain ⟨number, rounded⟩ := exists_ofInt_eq_finite integer bound
  rw [rounded]
  intro same
  cases same

end Double

namespace Value

/-- A property of every scalar that a list and a document take over from their members holds of
every value. -/
@[elab_as_elim]
theorem structuralInduction {motive : Value → Prop}
    (scalar : ∀ value : Value, value.IsScalar → motive value)
    (array : ∀ values, (∀ value ∈ values, motive value) → motive (array values))
    (document : ∀ fields, (∀ field ∈ fields, motive field.2) → motive (document fields))
    (value : Value) : motive value := by
  cases value with
  | array values =>
      apply array values
      intro element member
      exact structuralInduction scalar array document element
  | document fields =>
      apply document fields
      rintro ⟨key, element⟩ member
      exact structuralInduction scalar array document element
  | _ => exact scalar _ trivial
termination_by sizeOf value
decreasing_by
  · have within := List.sizeOf_lt_of_mem member
    rw [Value.array.sizeOf_spec]
    omega
  · have within := List.sizeOf_lt_of_mem member
    rw [Prod.mk.sizeOf_spec] at within
    rw [Value.document.sizeOf_spec]
    omega

/-- No document in a list repeats a key when none of the elements does. -/
theorem keyedList_iff {values : List Value} :
    KeyedList values ↔ ∀ value ∈ values, value.Keyed := by
  induction values with
  | nil => exact iff_of_true trivial (List.forall_mem_nil _)
  | cons value rest inductionHypothesis =>
      rw [KeyedList, inductionHypothesis, List.forall_mem_cons]

/-- A scalar has no keys that could repeat. -/
theorem keyed_of_isScalar {value : Value} (scalar : value.IsScalar) : value.Keyed := by
  cases value with
  | array _ | document _ => cases scalar
  | _ => trivial

/-- A scalar is no list. -/
theorem not_isList_of_isScalar {value : Value} (scalar : value.IsScalar) : ¬ value.IsList := by
  cases value with
  | array values => cases scalar
  | _ => exact not_false

/-- Two values agree when their comparands are equal. -/
def Agrees (left right : Value) : Prop :=
  left.comparand.equal right.comparand = true

instance (left right : Value) : Decidable (left.Agrees right) :=
  inferInstanceAs (Decidable (left.comparand.equal right.comparand = true))

/-- A list agrees with the lists whose elements agree in order. -/
theorem agrees_array_iff {values : List Value} {other : Value} :
    (array values).Agrees other ↔
      ∃ others, other = array others ∧ List.Forall₂ Agrees values others := by
  cases other with
  | array others =>
      simp only [Agrees, comparand, comparandList_eq_map, Comparand.equal, array.injEq,
        exists_eq_left', Comparand.equalList_map_iff]
      rfl
  | _ => simp [Agrees, comparand, Comparand.equal]

/-- A document agrees with the documents that have as many fields and a partner for each of its own.
-/
theorem agrees_document_iff {fields : Fields Value} {other : Value} :
    (document fields).Agrees other ↔ ∃ others : Fields Value, other = document others ∧
      fields.length = others.length ∧
        ∀ field ∈ fields, ∃ found, others.get? field.1 = some found ∧ field.2.Agrees found := by
  cases other with
  | document others => simp [Agrees, comparand, Comparand.equal, Comparand.equalFields_map_iff]
  | _ => simp [Agrees, comparand, Comparand.equal]

/-- Integers and doubles compare as the double they stand for. -/
theorem comparand_of_number? {value : Value} {number : Double}
    (known : value.number? = some number) : value.comparand = .number number := by
  cases value with
  | int32 _ | int64 _ | double _ => exact congrArg Comparand.number (Option.some.inj known)
  | _ => cases known

/-- Integers and doubles are scalars. -/
theorem isScalar_of_number? {value : Value} {number : Double}
    (known : value.number? = some number) : value.IsScalar := by
  cases value with
  | array _ | document _ => cases known
  | _ => trivial

/-- A number agrees with the numbers of the same place. -/
theorem agrees_number_iff {left right : Value} {first : Double}
    (number : left.number? = some first) :
    left.Agrees right ↔ ∃ second, right.number? = some second ∧ first.Same second := by
  rw [Agrees, comparand_of_number? number]
  cases right <;> simp [comparand, Comparand.equal, number?, Double.equal_iff]

/-- Scalars that are no numbers only agree when they have the same comparand. -/
theorem agrees_scalar_iff {left right : Value} (scalar : left.IsScalar)
    (noNumber : left.number? = none) :
    left.Agrees right ↔ left.comparand = right.comparand := by
  unfold Agrees
  cases left with
  | int32 _ | int64 _ | double _ => cases noNumber
  | array _ | document _ => cases scalar
  | _ => cases right <;> simp [comparand, Comparand.equal]

/-- Documents that agree have the same keys, because they have as many and those of the left all
stand on the right. -/
theorem keys_perm_of_agrees {fields others : Fields Value} (distinct : fields.Distinct)
    (agrees : (document fields).Agrees (document others)) :
    (Fields.keys fields).Perm (Fields.keys others) := by
  obtain ⟨found, same, sameLength, partner⟩ := agrees_document_iff.mp agrees
  cases same
  apply Fields.Distinct.keys_perm distinct _ (Nat.le_of_eq sameLength.symm)
  intro key known
  obtain ⟨value, present⟩ := Fields.mem_keys_iff.mp known
  obtain ⟨other, otherPresent, -⟩ := partner (key, value) (Fields.mem_of_get? present)
  exact Fields.mem_keys_iff.mpr ⟨other, otherPresent⟩

/-- Agreement is symmetric, by induction on the left side. -/
theorem Agrees.symm {left right : Value} (keyed : left.Keyed) (agrees : left.Agrees right) :
    right.Agrees left := by
  induction left using structuralInduction generalizing right with
  | scalar left isScalar =>
      cases known : left.number? with
      | some first =>
          obtain ⟨second, rightKnown, same⟩ := (agrees_number_iff known).mp agrees
          exact (agrees_number_iff rightKnown).mpr ⟨first, known, same.symm⟩
      | none =>
          have same := (agrees_scalar_iff isScalar known).mp agrees
          unfold Agrees at agrees ⊢
          rw [same] at agrees ⊢
          exact agrees
  | array values inductionHypothesis =>
      obtain ⟨others, rfl, pairs⟩ := agrees_array_iff.mp agrees
      obtain ⟨sameLength, each⟩ := List.forall₂_iff_get.mp pairs
      refine agrees_array_iff.mpr ⟨values, rfl, List.forall₂_iff_get.mpr ⟨sameLength.symm, ?_⟩⟩
      intro index otherBound bound
      have member : values.get ⟨index, bound⟩ ∈ values := List.get_mem values _
      exact inductionHypothesis _ member (keyedList_iff.mp keyed _ member)
        (each index bound otherBound)
  | document fields inductionHypothesis =>
      obtain ⟨others, rfl, sameLength, found⟩ := agrees_document_iff.mp agrees
      obtain ⟨distinct, fieldsKeyed⟩ := keyed
      -- Without distinct keys, two keys of the left could have the same partner on the right.
      have sameKeys := keys_perm_of_agrees distinct agrees
      have otherDistinct : others.Distinct := sameKeys.nodup_iff.mp distinct
      refine agrees_document_iff.mpr ⟨fields, rfl, sameLength.symm, ?_⟩
      rintro ⟨key, other⟩ member
      obtain ⟨value, known⟩ :=
        Fields.mem_keys_iff.mp (sameKeys.mem_iff.mpr (Fields.mem_keys_of_mem member))
      have valueMember := Fields.mem_of_get? known
      obtain ⟨partner, partnerFound, partnerAgrees⟩ := found (key, value) valueMember
      cases (otherDistinct.get?_of_mem member).symm.trans partnerFound
      exact ⟨value, known, inductionHypothesis (key, value) valueMember
        (keyedFields_iff.mp fieldsKeyed _ valueMember) partnerAgrees⟩

/-- Agreement is transitive, by induction on the first value. -/
theorem Agrees.trans {first second third : Value} (left : first.Agrees second)
    (right : second.Agrees third) : first.Agrees third := by
  induction first using structuralInduction generalizing second third with
  | scalar first isScalar =>
      cases known : first.number? with
      | some number =>
          obtain ⟨other, otherKnown, same⟩ := (agrees_number_iff known).mp left
          obtain ⟨last, lastKnown, otherSame⟩ := (agrees_number_iff otherKnown).mp right
          exact (agrees_number_iff known).mpr ⟨last, lastKnown, same.trans otherSame⟩
      | none =>
          have same := (agrees_scalar_iff isScalar known).mp left
          unfold Agrees
          rw [same]
          exact right
  | array values inductionHypothesis =>
      obtain ⟨others, rfl, pairs⟩ := agrees_array_iff.mp left
      obtain ⟨lasts, rfl, otherPairs⟩ := agrees_array_iff.mp right
      obtain ⟨sameLength, each⟩ := List.forall₂_iff_get.mp pairs
      obtain ⟨otherLength, otherEach⟩ := List.forall₂_iff_get.mp otherPairs
      refine agrees_array_iff.mpr
        ⟨lasts, rfl, List.forall₂_iff_get.mpr ⟨sameLength.trans otherLength, ?_⟩⟩
      intro index bound lastBound
      exact inductionHypothesis _ (List.get_mem values _) (each index bound (sameLength ▸ bound))
        (otherEach index (sameLength ▸ bound) lastBound)
  | document fields inductionHypothesis =>
      obtain ⟨others, rfl, sameLength, found⟩ := agrees_document_iff.mp left
      obtain ⟨lasts, rfl, otherLength, otherFound⟩ := agrees_document_iff.mp right
      refine agrees_document_iff.mpr ⟨lasts, rfl, sameLength.trans otherLength, ?_⟩
      intro field member
      obtain ⟨other, known, agrees⟩ := found field member
      obtain ⟨last, lastKnown, otherAgrees⟩ :=
        otherFound (field.1, other) (Fields.mem_of_get? known)
      exact ⟨last, lastKnown, inductionHypothesis field member agrees otherAgrees⟩

/-- A value holds what is not a number when it is such a double, or when an element of its list or
a field of its document holds one. -/
inductive HoldsNan : Value → Prop
  | double : HoldsNan (double .nan)
  | element {values : List Value} {value : Value} (member : value ∈ values)
      (within : HoldsNan value) : HoldsNan (array values)
  | field {fields : Fields Value} {field : String × Value} (member : field ∈ fields)
      (within : HoldsNan field.2) : HoldsNan (document fields)

/-- No integer stands for what is not a number. -/
theorem number?_eq_nan_iff {value : Value} : value.number? = some .nan ↔ value = double .nan := by
  constructor
  · intro known
    cases value with
    | int32 value | int64 value =>
        have lower := value.le_toInt
        have upper := value.toInt_lt
        exact absurd (Option.some.inj known) (Double.ofInt_ne_nan (by omega))
    | double value => exact congrArg double (Option.some.inj known)
    | _ => cases known
  · rintro rfl
    rfl

/-- A scalar only holds what is not a number when it is this itself. -/
theorem holdsNan_scalar_iff {value : Value} (scalar : value.IsScalar) :
    value.HoldsNan ↔ value.number? = some .nan := by
  rw [number?_eq_nan_iff]
  constructor
  · intro within
    cases within with
    | double => rfl
    | element => cases scalar
    | field => cases scalar
  · rintro rfl
    exact .double

/-- A list holds what an element holds. -/
theorem holdsNan_array_iff {values : List Value} :
    (array values).HoldsNan ↔ ∃ value ∈ values, value.HoldsNan := by
  constructor
  · rintro (_ | ⟨member, within⟩)
    exact ⟨_, member, within⟩
  · rintro ⟨value, member, within⟩
    exact .element member within

/-- A document holds what the value of a field holds. -/
theorem holdsNan_document_iff {fields : Fields Value} :
    (document fields).HoldsNan ↔ ∃ field ∈ fields, field.2.HoldsNan := by
  constructor
  · intro within
    cases within with
    | field member within => exact ⟨_, member, within⟩
  · rintro ⟨field, member, within⟩
    exact .field member within

/-- A value agrees with itself unless it holds a double that is not a number. -/
theorem agrees_self_iff {value : Value} (keyed : value.Keyed) :
    value.Agrees value ↔ ¬ value.HoldsNan := by
  induction value using structuralInduction with
  | scalar value isScalar =>
      rw [holdsNan_scalar_iff isScalar]
      cases known : value.number? with
      | some number => simp [agrees_number_iff known, known, Double.same_self_iff]
      | none => exact iff_of_true ((agrees_scalar_iff isScalar known).mpr rfl) nofun
  | array values inductionHypothesis =>
      have eachKeyed := keyedList_iff.mp keyed
      simp only [agrees_array_iff, array.injEq, exists_eq_left', List.forall₂_same,
        holdsNan_array_iff, not_exists, not_and]
      apply forall₂_congr
      intro value member
      exact inductionHypothesis value member (eachKeyed value member)
  | document fields inductionHypothesis =>
      obtain ⟨distinct, fieldsKeyed⟩ := keyed
      have eachKeyed := keyedFields_iff.mp fieldsKeyed
      simp only [agrees_document_iff, document.injEq, exists_eq_left', true_and,
        holdsNan_document_iff, not_exists, not_and]
      apply forall₂_congr
      intro field member
      rw [← inductionHypothesis field member (eachKeyed field member),
        distinct.get?_of_mem member]
      simp only [Option.some.injEq, exists_eq_left']

/-- An element of a list may be replaced by another that stands in the same relations. -/
theorem forall₂_replace {α β : Type} {relation : α → β → Prop} {left right : α}
    (same : ∀ other, relation left other ↔ relation right other) (before after : List α)
    (others : List β) :
    List.Forall₂ relation (before ++ left :: after) others ↔
      List.Forall₂ relation (before ++ right :: after) others := by
  induction before generalizing others with
  | nil => simp only [List.nil_append, List.forall₂_cons_left_iff, same]
  | cons first rest inductionHypothesis =>
      simp only [List.cons_append, List.forall₂_cons_left_iff, inductionHypothesis]

/-- A respelling permutes the keys of one document, or takes another kind of number for one integer
or double, at any depth of a value. Whatever happens in the scope of a piece of code is a respelling
too. -/
inductive Respelling : Value → Value → Prop
  | keys {fields others : Fields Value} (order : fields.Perm others) :
      Respelling (document fields) (document others)
  | scope (text : String) (fields others : Fields Value) :
      Respelling (codeWithScope text fields) (codeWithScope text others)
  | number {left right : Value} {first second : Double} (leftNumber : left.number? = some first)
      (rightNumber : right.number? = some second) (samePlace : first.place = second.place) :
      Respelling left right
  | element {left right : Value} (before after : List Value) (within : Respelling left right) :
      Respelling (array (before ++ left :: after)) (array (before ++ right :: after))
  | field {left right : Value} (before after : Fields Value) (key : String)
      (within : Respelling left right) :
      Respelling (document (before ++ (key, left) :: after))
        (document (before ++ (key, right) :: after))

/-- Any number of respellings may follow each other. -/
def Respelled : Value → Value → Prop :=
  Relation.ReflTransGen Respelling

/-- A list contains a value when one of its elements agrees with it. -/
def Contains (list value : Value) : Prop :=
  ∃ elements, list = array elements ∧ ∃ element ∈ elements, element.Agrees value

/-- A list contains what one of its elements agrees with. -/
theorem contains_array_iff {elements : List Value} {value : Value} :
    (array elements).Contains value ↔ ∃ element ∈ elements, element.Agrees value := by
  simp only [Contains, array.injEq, exists_eq_left']

/-- Only lists contain anything. -/
theorem not_contains {value other : Value} (noList : ¬ value.IsList) : ¬ value.Contains other := by
  rintro ⟨elements, rfl, -⟩
  exact noList trivial

namespace Respelling

variable {left right : Value}

/-- A respelling agrees with the same values as before. -/
theorem agrees_iff (respelling : Respelling left right) (other : Value) :
    left.Agrees other ↔ right.Agrees other := by
  induction respelling generalizing other with
  | keys order =>
      rw [agrees_document_iff, agrees_document_iff, order.length_eq]
      simp only [order.mem_iff]
  | scope => exact Iff.rfl
  | number leftNumber rightNumber samePlace =>
      rw [agrees_number_iff leftNumber, agrees_number_iff rightNumber]
      simp only [Double.Same, samePlace]
  | element before after within inductionHypothesis =>
      rw [agrees_array_iff, agrees_array_iff]
      apply exists_congr
      intro others
      exact and_congr_right fun _ => forall₂_replace inductionHypothesis before after others
  | field before after key within inductionHypothesis =>
      rw [agrees_document_iff, agrees_document_iff]
      simp only [List.length_append, List.length_cons, List.forall_mem_append,
        List.forall_mem_cons, inductionHypothesis]

/-- A respelling repeats no key when there was none before. -/
theorem keyed (respelling : Respelling left right) (leftKeyed : left.Keyed) : right.Keyed := by
  induction respelling with
  | keys order =>
      obtain ⟨distinct, fieldsKeyed⟩ := leftKeyed
      refine ⟨(order.map Prod.fst).nodup_iff.mp distinct, keyedFields_iff.mpr ?_⟩
      intro field member
      exact keyedFields_iff.mp fieldsKeyed field (order.mem_iff.mpr member)
  | scope => trivial
  | number _ rightNumber => exact keyed_of_isScalar (isScalar_of_number? rightNumber)
  | element before after within inductionHypothesis =>
      have each := keyedList_iff.mp leftKeyed
      rw [List.forall_mem_append, List.forall_mem_cons] at each
      obtain ⟨beforeKeyed, elementKeyed, afterKeyed⟩ := each
      apply keyedList_iff.mpr
      rw [List.forall_mem_append, List.forall_mem_cons]
      exact ⟨beforeKeyed, inductionHypothesis elementKeyed, afterKeyed⟩
  | field before after key within inductionHypothesis =>
      obtain ⟨distinct, fieldsKeyed⟩ := leftKeyed
      have each := keyedFields_iff.mp fieldsKeyed
      rw [List.forall_mem_append, List.forall_mem_cons] at each
      obtain ⟨beforeKeyed, fieldKeyed, afterKeyed⟩ := each
      refine ⟨?_, keyedFields_iff.mpr ?_⟩
      · simpa only [Fields.Distinct, Fields.keys, List.map_append, List.map_cons] using distinct
      · rw [List.forall_mem_append, List.forall_mem_cons]
        exact ⟨beforeKeyed, inductionHypothesis fieldKeyed, afterKeyed⟩

/-- A respelling of a list is a list. -/
theorem isList_iff (respelling : Respelling left right) : left.IsList ↔ right.IsList := by
  cases respelling with
  | number leftNumber rightNumber =>
      exact iff_of_false (not_isList_of_isScalar (isScalar_of_number? leftNumber))
        (not_isList_of_isScalar (isScalar_of_number? rightNumber))
  | _ => exact Iff.rfl

/-- A respelling contains the same values as before. -/
theorem contains_iff (respelling : Respelling left right) (value : Value) :
    left.Contains value ↔ right.Contains value := by
  cases respelling with
  | element before after within =>
      simp only [contains_array_iff, List.mem_append, List.mem_cons, or_and_right, exists_or,
        exists_eq_left, within.agrees_iff value]
  | number leftNumber rightNumber =>
      exact iff_of_false (not_contains (not_isList_of_isScalar (isScalar_of_number? leftNumber)))
        (not_contains (not_isList_of_isScalar (isScalar_of_number? rightNumber)))
  | keys | scope | field => exact iff_of_false (not_contains not_false) (not_contains not_false)

end Respelling

/-- Both sides of an agreement may be exchanged. -/
theorem Agrees.comm {left right : Value} (leftKeyed : left.Keyed) (rightKeyed : right.Keyed) :
    left.Agrees right ↔ right.Agrees left :=
  ⟨.symm leftKeyed, .symm rightKeyed⟩

namespace Respelled

variable {first second left right : Value}

/-- What one respelling leaves as it is, any number of them leaves as it is. -/
theorem iff_of_step {Holds : Value → Prop}
    (step : ∀ {value other : Value}, Respelling value other → (Holds value ↔ Holds other))
    (respelled : first.Respelled left) : Holds first ↔ Holds left := by
  induction respelled with
  | refl => exact Iff.rfl
  | tail _ last inductionHypothesis => exact inductionHypothesis.trans (step last)

theorem agrees_iff (respelled : first.Respelled left) (other : Value) :
    first.Agrees other ↔ left.Agrees other :=
  respelled.iff_of_step fun step => step.agrees_iff other

theorem contains_iff (respelled : first.Respelled left) (value : Value) :
    first.Contains value ↔ left.Contains value :=
  respelled.iff_of_step fun step => step.contains_iff value

theorem isList_iff (respelled : first.Respelled left) : first.IsList ↔ left.IsList :=
  respelled.iff_of_step Respelling.isList_iff

theorem keyed (respelled : first.Respelled left) (keyed : first.Keyed) : left.Keyed := by
  induction respelled with
  | refl => exact keyed
  | tail _ step inductionHypothesis => exact step.keyed inductionHypothesis

/-- By symmetry a value may be respelled on the right side too. -/
theorem agrees_right_iff (respelled : second.Respelled right) (keyed : second.Keyed) {value : Value}
    (valueKeyed : value.Keyed) : value.Agrees second ↔ value.Agrees right := by
  rw [Agrees.comm valueKeyed keyed, respelled.agrees_iff,
    Agrees.comm (respelled.keyed keyed) valueKeyed]

/-- The value that is contained may be respelled too. -/
theorem contains_right_iff (respelled : second.Respelled right) (keyed : second.Keyed)
    {value : Value} (valueKeyed : value.Keyed) : value.Contains second ↔ value.Contains right := by
  apply exists_congr
  intro elements
  apply and_congr_right
  rintro rfl
  apply exists_congr
  intro element
  apply and_congr_right
  intro member
  exact respelled.agrees_right_iff keyed (keyedList_iff.mp valueKeyed element member)

end Respelled

/-- A stored value equals another when they agree, or when it is a list that contains the other and
this is no list. -/
theorem fieldEquals_iff_agrees (stored value : Value) :
    fieldEquals (some stored) value = true ↔
      stored.Agrees value ∨ ¬ value.IsList ∧ stored.Contains value := by
  by_cases list : value.IsList
  · rw [or_iff_left fun found => found.1 list]
    cases value with
    | array others => cases stored <;> rfl
    | _ => cases list
  · cases stored with
    | array elements =>
        rw [fieldEquals_array list, contains_array_iff, or_iff_right, and_iff_right list]
        · rfl
        · intro agrees
          obtain ⟨others, rfl, -⟩ := agrees_array_iff.mp agrees
          exact list trivial
    | _ =>
        refine (or_iff_left ?_).symm
        rintro ⟨-, elements, same, -⟩
        cases same

/-- The equality of values is a partial equivalence. It is symmetric and transitive, and a value
agrees with itself unless it holds a double that is not a number. A field equals the values that
agree with its own, and a list also equals what it contains. Respellings of both sides change
neither the agreement nor whether a field equals a value. -/
theorem agrees_partialEquivalence {first second third left right : Value}
    (firstKeyed : first.Keyed) (secondKeyed : second.Keyed) (firstRespelled : first.Respelled left)
    (secondRespelled : second.Respelled right) :
    (first.Agrees second ↔ second.Agrees first) ∧
      (first.Agrees second → second.Agrees third → first.Agrees third) ∧
      (first.Agrees first ↔ ¬ first.HoldsNan) ∧
      (first.Agrees second ↔ left.Agrees right) ∧
      (fieldEquals (some first) second = true ↔
        first.Agrees second ∨ ¬ second.IsList ∧ first.Contains second) ∧
      fieldEquals (some first) second = fieldEquals (some left) right := by
  have leftKeyed := firstRespelled.keyed firstKeyed
  have agreesAlike : first.Agrees second ↔ left.Agrees right :=
    (firstRespelled.agrees_iff second).trans
      (secondRespelled.agrees_right_iff secondKeyed leftKeyed)
  have containsAlike : first.Contains second ↔ left.Contains right :=
    (firstRespelled.contains_iff second).trans
      (secondRespelled.contains_right_iff secondKeyed leftKeyed)
  refine ⟨Agrees.comm firstKeyed secondKeyed, Agrees.trans, agrees_self_iff firstKeyed,
    agreesAlike, fieldEquals_iff_agrees first second, ?_⟩
  rw [Bool.eq_iff_iff, fieldEquals_iff_agrees, fieldEquals_iff_agrees, agreesAlike, containsAlike,
    secondRespelled.isList_iff]

/-- Three spellings of one document agree, and a field that holds one equals another. -/
theorem agrees_partialEquivalence_spellings :
    let stored := document [("size", .int32 1), ("tag", .string "new")]
    let respelled := document [("tag", .string "new"), ("size", .double (.ofInt 1))]
    let expected := document [("tag", .string "new"), ("size", .int64 1)]
    stored.Keyed ∧ expected.Keyed ∧ stored.Respelled respelled ∧ expected.Respelled expected ∧
      expected.Agrees stored ∧ stored.Agrees respelled ∧ ¬ stored.HoldsNan ∧
      fieldEquals (some stored) expected = true ∧ fieldEquals (some respelled) expected = true := by
  intro stored respelled expected
  have storedKeyed : stored.Keyed :=
    ⟨show ["size", "tag"].Nodup by decide, trivial, trivial, trivial⟩
  have expectedKeyed : expected.Keyed :=
    ⟨show ["tag", "size"].Nodup by decide, trivial, trivial, trivial⟩
  let reordered := document [("tag", .string "new"), ("size", .int32 1)]
  have ordered : Respelling stored reordered := .keys (.swap _ _ _)
  have retyped : Respelling reordered respelled :=
    .field [("tag", .string "new")] [] "size" (.number rfl rfl rfl)
  have path : stored.Respelled respelled := .head ordered (.single retyped)
  obtain ⟨symmetric, transitive, selfAgrees, alike, -, equalAlike⟩ :=
    @agrees_partialEquivalence stored expected respelled respelled expected storedKeyed
      expectedKeyed path .refl
  have storedSelf : stored.Agrees stored := by decide +kernel
  have storedAgrees : stored.Agrees expected := alike.mpr (by decide +kernel)
  have expectedAgrees : expected.Agrees respelled := by decide +kernel
  have respelledEqual : fieldEquals (some respelled) expected = true := by decide +kernel
  exact ⟨storedKeyed, expectedKeyed, path, .refl, symmetric.mp storedAgrees,
    transitive storedAgrees expectedAgrees, selfAgrees.mp storedSelf,
    equalAlike.trans respelledEqual, respelledEqual⟩

/-- The equality of fields alone is not symmetric, because a list equals its elements. Decimal
numbers are no numbers for the agreement: the one of value one does not agree with the integer, but
with null, and the one that is not a number agrees with itself. -/
theorem not_partialEquivalence_list_decimal128 :
    let list := array [int32 5]
    let one : Decimal128 := ⟨0x30400000000000000000000000000001#128⟩
    let noNumber : Decimal128 := ⟨0x7C000000000000000000000000000000#128⟩
    fieldEquals (some list) (int32 5) = true ∧ fieldEquals (some (int32 5)) list = false ∧
      one.text = ['1'] ∧ ¬ (decimal128 one).Agrees (int32 1) ∧ (decimal128 one).Agrees null ∧
      noNumber.text = ['N', 'a', 'N'] ∧ (decimal128 noNumber).Agrees (decimal128 noNumber) := by
  decide +kernel

end Value

end DocumentStore
