import DocumentStore.Proofs.Double.Finite
import DocumentStore.Proofs.Fields
import DocumentStore.Value.Json

/-!
This file describes the values that a service can store.

They are JSON values and dates. Their doubles are finite, and no document repeats a key.
-/

namespace DocumentStore

namespace Value

/-- A stored value is a scalar, a date, or a list or a document of stored values. -/
inductive Storable : Value → Prop
  | null : Storable .null
  | bool (value : Bool) : Storable (.bool value)
  | int32 (value : Int32) : Storable (.int32 value)
  | int64 (value : Int64) : Storable (.int64 value)
  | double (number : FiniteDouble) : Storable (.double (.finite number))
  | date (instant : Instant) : Storable (.date instant)
  | string (text : String) : Storable (.string text)
  | array {values : List Value} (elements : ∀ value ∈ values, Storable value) :
      Storable (.array values)
  | document {fields : Fields Value} (distinct : fields.Distinct)
      (members : ∀ field ∈ fields, Storable field.2) : Storable (.document fields)

@[simp] theorem ofJsonList_eq_map (values : List Json) : ofJsonList values = values.map ofJson := by
  induction values with
  | nil => rfl
  | cons value rest inductionHypothesis =>
      rw [ofJsonList, inductionHypothesis, List.map_cons]

/-- Fields are read one by one under their keys. -/
@[simp] theorem ofJsonFields_eq_map (fields : Fields Json) :
    ofJsonFields fields = fields.map fun field => (field.1, ofJson field.2) := by
  induction fields with
  | nil => rfl
  | cons field rest inductionHypothesis =>
      rw [ofJsonFields, inductionHypothesis, List.map_cons]

/-- Fields with different keys are read one by one. -/
theorem ofList_ofJsonFields {fields : Fields Json} (distinct : fields.Distinct) :
    Fields.ofList (ofJsonFields fields) = fields.map fun field => (field.1, ofJson field.2) := by
  have sameKeys := Fields.keys_mapValues fields fun _ value => ofJson value
  rw [ofJsonFields_eq_map, Fields.ofList_distinct]
  rw [Fields.Distinct, sameKeys]
  exact distinct

@[simp] theorem toJsonList_eq_map (values : List Value) :
    toJsonList values = values.map toJson := by
  induction values with
  | nil => rfl
  | cons value rest inductionHypothesis =>
      rw [toJsonList, inductionHypothesis, List.map_cons]

/-- Fields are written one by one under their keys. -/
@[simp] theorem toJsonFields_eq_map (fields : Fields Value) :
    toJsonFields fields = fields.map fun field => (field.1, toJson field.2) := by
  induction fields with
  | nil => rfl
  | cons field rest inductionHypothesis =>
      rw [toJsonFields, inductionHypothesis, List.map_cons]

/-- Every integer of the wire can be stored. -/
theorem storable_ofInteger (value : Int) (lower : -9223372036854775808 ≤ value)
    (upper : value < 18446744073709551616) : (ofInteger value).Storable := by
  unfold ofInteger
  split
  · exact .int32 _
  · split
    · exact .int64 _
    · obtain ⟨number, rounded⟩ := Double.exists_ofInt_eq_finite value (by omega)
      rw [rounded]
      exact .double number

/-- Every number of the wire can be stored. -/
theorem storable_ofNumber (number : JsonNumber) : (ofNumber number).Storable := by
  cases number with
  | integer value lower upper => exact storable_ofInteger value lower upper
  | double number => exact .double number

mutual

/-- Whatever JSON value is read, the service can store it. -/
theorem storable_ofJson : (json : Json) → (ofJson json).Storable
  | .null => .null
  | .bool value => .bool value
  | .number number => storable_ofNumber number
  | .string text => .string text
  | .array values => .array (storable_ofJsonList values)
  | .object fields =>
      .document (Fields.distinct_ofList _) fun field member =>
        storable_ofJsonFields fields field (Fields.mem_of_mem_ofList member)

/-- Every element that was read can be stored. -/
theorem storable_ofJsonList : (values : List Json) →
    ∀ value ∈ ofJsonList values, value.Storable
  | [] => by simp
  | json :: rest => by
      rw [ofJsonList, List.forall_mem_cons]
      exact ⟨storable_ofJson json, storable_ofJsonList rest⟩

/-- Every value of a field that was read can be stored. -/
theorem storable_ofJsonFields : (fields : List (String × Json)) →
    ∀ field ∈ ofJsonFields fields, field.2.Storable
  | [] => by simp
  | (key, json) :: rest => by
      rw [ofJsonFields, List.forall_mem_cons]
      exact ⟨storable_ofJson json, storable_ofJsonFields rest⟩

end

/-- A decoded date can be stored. -/
theorem Storable.decodeDate {value : Value} (storable : value.Storable) :
    value.decodeDate.Storable := by
  unfold Value.decodeDate
  split
  · exact .date _
  · exact storable

end Value

/-- An item of stored values has distinct keys too. -/
structure Item.Storable (item : Item) : Prop where
  distinct : item.Distinct
  values : ∀ field ∈ item, field.2.Storable

namespace Item

/-- The fields of a storable item can be stored. -/
theorem Storable.get? {item : Item} (storable : item.Storable) {key : String} {value : Value}
    (found : item.get? key = some value) : value.Storable :=
  storable.values (key, value) (Fields.mem_of_get? found)

end Item

end DocumentStore
