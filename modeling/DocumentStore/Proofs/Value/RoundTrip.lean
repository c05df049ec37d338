import DocumentStore.Proofs.Instant.Wire
import DocumentStore.Proofs.Value.Equality

/-!
This file follows a stored value into its wire form and back. Every value comes back as it was, but
a date only comes back when its year has four digits.
-/

namespace DocumentStore

namespace Value

/-- Small integers are read as the narrow kind again. -/
theorem ofInteger_toInt32 (value : Int32) : ofInteger value.toInt = int32 value := by
  have lower := value.le_toInt
  have upper := value.toInt_lt
  unfold ofInteger
  rw [if_pos ⟨lower, upper⟩, Int32.ofInt_toInt]

/-- An integer that took its narrowest kind takes it again. -/
theorem ofJson_toJson_ofInteger {value : Int} (lower : -9223372036854775808 ≤ value)
    (upper : value < 18446744073709551616) :
    ofJson (toJson (ofInteger value)) = ofInteger value := by
  by_cases narrow : -2147483648 ≤ value ∧ value < 2147483648
  · have kind : ofInteger value = int32 (Int32.ofInt value) := if_pos narrow
    rw [kind]
    exact ofInteger_toInt32 _
  · by_cases signed : value < 9223372036854775808
    · have kind : ofInteger value = int64 (Int64.ofInt value) := by
        rw [ofInteger, if_neg narrow, if_pos signed]
      have known : (Int64.ofInt value).toInt = value := Int64.toInt_ofInt_of_le lower signed
      have back : ofJson (toJson (int64 (Int64.ofInt value))) =
          ofInteger (Int64.ofInt value).toInt := rfl
      rw [kind, back, known, kind]
    · obtain ⟨number, rounded⟩ := Double.exists_ofInt_eq_finite value (by omega)
      have kind : ofInteger value = double (Double.ofInt value) := by
        rw [ofInteger, if_neg narrow, if_neg signed]
      rw [kind, rounded]
      rfl

/-- A number that was read comes back with its kind. -/
theorem ofJson_toJson_ofNumber (number : JsonNumber) :
    ofJson (toJson (ofNumber number)) = ofNumber number := by
  cases number with
  | integer value lower upper => exact ofJson_toJson_ofInteger lower upper
  | double number => rfl

/-- Fields that are read back one by one are read back together. -/
theorem ofFields_toFields {fields : Fields Value} (distinct : fields.Distinct)
    (back : ∀ field ∈ fields, ofJson (toJson field.2) = field.2) :
    ofJson (toJson (document fields)) = document fields := by
  have same : ofJsonFields (toJsonFields fields) = fields := by
    have unchanged : ∀ field ∈ fields, (field.1, ofJson (toJson field.2)) = id field := by
      intro field member
      rw [back field member]
      rfl
    rw [toJsonFields_eq_map, ofJsonFields_eq_map, List.map_map]
    exact (List.map_congr_left unchanged).trans (List.map_id fields)
  rw [toJson, ofJson, same, Fields.ofList_distinct distinct]

mutual

/-- What JSON gave is given again. -/
theorem ofJson_toJson_ofJson : (json : Json) → ofJson (toJson (ofJson json)) = ofJson json
  | .null => rfl
  | .bool _ => rfl
  | .number number => ofJson_toJson_ofNumber number
  | .string _ => rfl
  | .array values => by
      rw [ofJson, toJson, ofJson, ofJsonList_toJsonList_ofJsonList values]
  | .object fields => ofFields_toFields (Fields.distinct_ofList _) fun field member =>
      ofJson_toJson_ofJsonFields fields field (Fields.mem_of_mem_ofList member)

/-- The elements of a list come back with their kinds. -/
theorem ofJsonList_toJsonList_ofJsonList : (values : List Json) →
    ofJsonList (toJsonList (ofJsonList values)) = ofJsonList values
  | [] => rfl
  | json :: rest => by
      rw [ofJsonList, toJsonList, ofJsonList, ofJson_toJson_ofJson json,
        ofJsonList_toJsonList_ofJsonList rest]

/-- The values of fields come back with their kinds. -/
theorem ofJson_toJson_ofJsonFields : (fields : List (String × Json)) →
    ∀ field ∈ ofJsonFields fields, ofJson (toJson field.2) = field.2
  | [] => by simp
  | (key, json) :: rest => by
      rw [ofJsonFields, List.forall_mem_cons]
      exact ⟨ofJson_toJson_ofJson json, ofJson_toJson_ofJsonFields rest⟩

end

/-- No integer is read as a date. -/
theorem ofInteger_ne_date (value : Int) (instant : Instant) : ofInteger value ≠ date instant := by
  unfold ofInteger
  split
  · nofun
  · split <;> nofun

/-- JSON has no dates, only texts and objects that name one. -/
theorem ofJson_ne_date (json : Json) (instant : Instant) : ofJson json ≠ date instant := by
  cases json with
  | number number =>
      cases number with
      | integer value lower upper => exact ofInteger_ne_date value instant
      | double number => nofun
  | _ => nofun

/-- A value without an instant is not decoded. -/
theorem decodeDate_of_none {value : Value} (plain : value.instant? = none) :
    value.decodeDate = value := by
  rw [decodeDate, plain]

/-- A value with an instant is decoded to its date. -/
theorem decodeDate_of_some {value : Value} {instant : Instant}
    (named : value.instant? = some instant) : value.decodeDate = date instant := by
  rw [decodeDate, named]

/-- Only dates are encoded. -/
theorem encodeDate_of_ne_date {value : Value} (plain : ∀ instant, value ≠ date instant) :
    value.encodeDate = value := by
  cases value with
  | date instant => exact absurd rfl (plain instant)
  | _ => rfl

/-- This is what is read from the wire form of a stored value. -/
def returned (value : Value) : Value :=
  (ofJson (toJson value.encodeDate)).decodeDate

/-- The instant of a wrapper is that of its payload. -/
theorem instant?_wrapper (payload : Value) :
    instant? (document [(dateTag, payload)]) = payload.payloadInstant? := by
  rw [instant?, wrappedInstant?, if_pos (Or.inl rfl)]

/-- A wrapper is read as its date when the year has four digits, and else it stays a document. -/
theorem decodeDate_encodeDate_date (instant : Instant) : decodeDate (encodeDate (date instant)) =
    if instant.HasFourDigitYear then date instant else encodeDate (date instant) := by
  have named := instant?_wrapper (string (String.ofList instant.wire))
  rw [payloadInstant?, Instant.ofIso?_wire] at named
  split
  · next near =>
      rw [if_pos near] at named
      exact decodeDate_of_some named
  · next far =>
      rw [if_neg far] at named
      exact decodeDate_of_none named

/-- A date comes back as itself when its year has four digits, and as its wrapper otherwise. -/
theorem returned_date (instant : Instant) : returned (date instant) =
    if instant.HasFourDigitYear then date instant
    else document [(dateTag, string (String.ofList instant.wire))] :=
  decodeDate_encodeDate_date instant

theorem decodeDate_eq_self {value : Value} (plain : ∀ instant, value.decodeDate ≠ date instant) :
    value.decodeDate = value := by
  cases named : value.instant? with
  | none => exact decodeDate_of_none named
  | some instant => exact absurd (decodeDate_of_some named) (plain instant)

/-- A stored value that is no date is read from its wire form as it is. -/
theorem ofJson_toJson_of_not_date {json : Json}
    (plain : ∀ instant, (ofJson json).decodeDate ≠ date instant) :
    ofJson (toJson (ofJson json).decodeDate.encodeDate) = (ofJson json).decodeDate := by
  rw [decodeDate_eq_self plain, encodeDate_of_ne_date (ofJson_ne_date json), ofJson_toJson_ofJson]

theorem returned_of_not_date {json : Json}
    (plain : ∀ instant, (ofJson json).decodeDate ≠ date instant) :
    returned (ofJson json).decodeDate = (ofJson json).decodeDate := by
  rw [returned, ofJson_toJson_of_not_date plain, decodeDate_eq_self plain]
  exact decodeDate_eq_self plain

/-- A stored value comes back from its wire form, unless it is a date in a far year. -/
theorem returned_eq_self_iff (json : Json) {value : Value}
    (decoded : value = (ofJson json).decodeDate) :
    returned value = value ↔ ∀ instant, value = date instant → instant.HasFourDigitYear := by
  by_cases dated : ∃ instant, value = date instant
  · obtain ⟨instant, rfl⟩ := dated
    rw [returned_date]
    by_cases near : instant.HasFourDigitYear
    · simp [near]
    · simp [near]
  · have plain : ∀ instant, value ≠ date instant := not_exists.mp dated
    subst decoded
    apply iff_of_true (returned_of_not_date plain)
    intro instant same
    exact absurd same (plain instant)

/-- A value that has come back is given out as before. -/
theorem toJson_encodeDate_returned (json : Json) {value : Value}
    (decoded : value = (ofJson json).decodeDate) :
    (returned value).encodeDate.toJson = value.encodeDate.toJson := by
  by_cases dated : ∃ instant, value = date instant
  · obtain ⟨instant, rfl⟩ := dated
    rw [returned_date]
    split <;> rfl
  · have plain : ∀ instant, value ≠ date instant := not_exists.mp dated
    subst decoded
    rw [returned_of_not_date plain]

end Value

end DocumentStore
