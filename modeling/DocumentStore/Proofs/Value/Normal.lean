import DocumentStore.Proofs.Value.RoundTrip

/-!
This file defines the form in which a JSON value is given out after it has been stored.

Large integers become doubles at every depth. At the top level of an item, a text or a wrapper that
names a date takes the wire form of the date.
-/

namespace DocumentStore

/-- An integer that a signed number of 64 bits cannot hold becomes the nearest double. -/
def JsonNumber.normal : JsonNumber → Json
  | integer value lower upper =>
    if value < 9223372036854775808 then .number (.integer value lower upper)
    else Value.doubleToJson (Double.ofInt value)
  | double number => .number (.double number)

namespace Json

mutual

/-- No object in the value repeats a key. -/
def Keyed : Json → Prop
  | .array values => KeyedList values
  | .object fields => Fields.Distinct fields ∧ KeyedFields fields
  | _ => True

/-- No object in an element repeats a key. -/
def KeyedList : List Json → Prop
  | [] => True
  | value :: rest => Keyed value ∧ KeyedList rest

/-- No object in the value of a field repeats a key. -/
def KeyedFields : List (String × Json) → Prop
  | [] => True
  | (_, value) :: rest => Keyed value ∧ KeyedFields rest

end

mutual

/-- Only numbers change, and all fields keep their places. -/
def normal : Json → Json
  | .number value => value.normal
  | .array values => .array (normalList values)
  | .object fields => .object (normalFields fields)
  | other => other

/-- Lists are normal when their elements are. -/
def normalList : List Json → List Json
  | [] => []
  | value :: rest => normal value :: normalList rest

/-- Keys stay as they are. -/
def normalFields : List (String × Json) → List (String × Json)
  | [] => []
  | (key, value) :: rest => (key, normal value) :: normalFields rest

end

/-- The payload of a wrapper is an ISO text or a count of milliseconds. -/
def payloadInstant? : Json → Option Instant
  | .string text => Instant.ofIso? text
  | .number (.integer value _ _) =>
    if value < 9223372036854775808 then some (.ofInt value) else none
  | _ => none

/-- This is the date that a text or an object with a single field names. -/
def instant? : Json → Option Instant
  | .string text => Instant.ofIso? text
  | .object [(key, payload)] =>
    if key = "date" ∨ key = "$date" then payload.payloadInstant? else none
  | _ => none

/-- At the top level of an item a value that names a date is given out as that date. -/
def settled (json : Json) : Json :=
  match json.instant? with
  | some instant => .object [("date", .string (String.ofList instant.wire))]
  | none => json.normal

/-- The value of a field repeats no key when none of the fields does. -/
theorem keyed_of_mem {fields : List (String × Json)} (keyed : KeyedFields fields)
    {field : String × Json} (member : field ∈ fields) : field.2.Keyed := by
  induction fields with
  | nil => cases member
  | cons first rest inductionHypothesis =>
      obtain ⟨firstKeyed, restKeyed⟩ := keyed
      rcases List.mem_cons.mp member with rfl | later
      · exact firstKeyed
      · exact inductionHypothesis restKeyed later

end Json

namespace Value

/-- Nothing collapses in an object whose keys are distinct. -/
theorem ofJson_object {fields : Fields Json} (distinct : fields.Distinct) :
    ofJson (.object fields) = document (fields.map fun field => (field.1, ofJson field.2)) := by
  rw [ofJson, ofList_ofJsonFields distinct]

/-- Numbers come back as they were, but large integers are rounded. -/
theorem toJson_ofNumber (number : JsonNumber) : toJson (ofNumber number) = number.normal := by
  cases number with
  | double number => rfl
  | integer value lower upper =>
      simp only [ofNumber, ofInteger, JsonNumber.normal]
      by_cases narrow : -2147483648 ≤ value ∧ value < 2147483648
      · have known : (Int32.ofInt value).toInt = value :=
          Int32.toInt_ofInt_of_le narrow.1 narrow.2
        have small : value < 9223372036854775808 := by omega
        rw [if_pos narrow, if_pos small]
        simp only [toJson, JsonNumber.ofInt32, known]
      · by_cases signed : value < 9223372036854775808
        · have known : (Int64.ofInt value).toInt = value := Int64.toInt_ofInt_of_le lower signed
          rw [if_neg narrow, if_pos signed, if_pos signed]
          simp only [toJson, JsonNumber.ofInt64, known]
        · rw [if_neg narrow, if_neg signed, if_neg signed]
          rfl

/-- A large integer does not get lost, because its nearest double is finite. -/
theorem exists_normal_integer {value : Int} (lower : -9223372036854775808 ≤ value)
    (upper : value < 18446744073709551616) (large : 9223372036854775808 ≤ value) :
    ∃ number, Double.ofInt value = .finite number ∧
      (JsonNumber.integer value lower upper).normal = .number (.double number) := by
  obtain ⟨number, rounded⟩ := Double.exists_ofInt_eq_finite value (by omega)
  refine ⟨number, rounded, ?_⟩
  rw [JsonNumber.normal, if_neg (Int.not_lt.mpr large), rounded]
  rfl

mutual

/-- A JSON value is given out in its normal form. -/
theorem toJson_ofJson : (json : Json) → json.Keyed → toJson (ofJson json) = json.normal
  | .null, _ => rfl
  | .bool _, _ => rfl
  | .number number, _ => toJson_ofNumber number
  | .string _, _ => rfl
  | .array values, keyed => by
      rw [ofJson, toJson, Json.normal, toJsonList_ofJsonList values keyed]
  | .object fields, ⟨distinct, keyed⟩ => by
      rw [ofJson_object distinct, toJson, Json.normal, ← ofJsonFields_eq_map,
        toJsonFields_ofJsonFields fields keyed]

theorem toJsonList_ofJsonList : (values : List Json) → Json.KeyedList values →
    toJsonList (ofJsonList values) = Json.normalList values
  | [], _ => rfl
  | value :: rest, ⟨keyed, restKeyed⟩ => by
      rw [ofJsonList, toJsonList, Json.normalList, toJson_ofJson value keyed,
        toJsonList_ofJsonList rest restKeyed]

theorem toJsonFields_ofJsonFields : (fields : List (String × Json)) → Json.KeyedFields fields →
    toJsonFields (ofJsonFields fields) = Json.normalFields fields
  | [], _ => rfl
  | (key, value) :: rest, ⟨keyed, restKeyed⟩ => by
      rw [ofJsonFields, toJsonFields, Json.normalFields, toJson_ofJson value keyed,
        toJsonFields_ofJsonFields rest restKeyed]

end

/-- Integers of 64 bits name instants, and larger ones do not. -/
theorem payloadInstant?_ofInteger (value : Int) :
    (ofInteger value).payloadInstant? =
      if value < 9223372036854775808 then some (Instant.ofInt value) else none := by
  unfold ofInteger
  by_cases narrow : -2147483648 ≤ value ∧ value < 2147483648
  · have known : (Int32.ofInt value).toInt = value := Int32.toInt_ofInt_of_le narrow.1 narrow.2
    have small : value < 9223372036854775808 := by omega
    rw [if_pos narrow, if_pos small, payloadInstant?, known]
  · rw [if_neg narrow]
    split <;> rfl

/-- A payload from JSON names the instant that its JSON names. -/
theorem payloadInstant?_ofJson (json : Json) :
    (ofJson json).payloadInstant? = json.payloadInstant? := by
  cases json with
  | number number =>
      cases number with
      | integer value lower upper => exact payloadInstant?_ofInteger value
      | double number => rfl
  | _ => rfl

/-- A value names the same date before and after it is read from JSON. -/
theorem instant?_ofJson {json : Json} (keyed : json.Keyed) :
    (ofJson json).instant? = json.instant? := by
  cases json with
  | number number =>
      have plain : ∀ value : Int, (ofInteger value).instant? = none := by
        intro value
        unfold ofInteger
        split
        · rfl
        · split <;> rfl
      cases number with
      | integer value lower upper => exact plain value
      | double number => rfl
  | object fields =>
      rw [ofJson_object keyed.1]
      match fields with
      | [] => rfl
      | [(key, payload)] =>
          change (if key = dateTag ∨ key = legacyDateTag then (ofJson payload).payloadInstant?
            else none) = _
          rw [payloadInstant?_ofJson]
          rfl
      | _ :: _ :: _ => rfl
  | _ => rfl

/-- A value that is stored at the top level of an item is given out in its settled form. -/
theorem toJson_decodeDate {json : Json} (keyed : json.Keyed) :
    (ofJson json).decodeDate.encodeDate.toJson = json.settled := by
  have sameInstant := instant?_ofJson keyed
  unfold Json.settled
  cases named : json.instant? with
  | none =>
      rw [named] at sameInstant
      rw [decodeDate_of_none sameInstant, encodeDate_of_ne_date (ofJson_ne_date json),
        toJson_ofJson json keyed]
  | some instant =>
      rw [named] at sameInstant
      rw [decodeDate_of_some sameInstant]
      rfl

end Value

end DocumentStore
