import DocumentStore.Proofs.Check
import DocumentStore.Proofs.Double.Nearest
import DocumentStore.Proofs.Value.Normal

/-!
This file shows that the conversion between JSON and stored values is exact in both directions.

The conversion reads a value part by part, and each number might be refused. No number is, so every
value is read, and it is given out as it was, up to the integers that need a double.
-/

namespace DocumentStore

namespace Value

mutual

/-- A value is read part by part, and a part that is refused would spoil the whole. -/
def readJson : Json → Outcome Value
  | .null => .ok null
  | .bool value => .ok (bool value)
  | .number number => readNumber number
  | .string text => .ok (string text)
  | .array values => do return array (← readJsonList values)
  | .object fields => do return document (← readJsonFields fields [])

/-- The first element that is refused ends the reading of a list. -/
def readJsonList : List Json → Outcome (List Value)
  | [] => .ok []
  | value :: rest => do
    let first ← readJson value
    let others ← readJsonList rest
    return first :: others

/-- The fields are inserted one after another. -/
def readJsonFields : List (String × Json) → Fields Value → Outcome (Fields Value)
  | [], fields => .ok fields
  | (key, value) :: rest, fields => do
    let first ← readJson value
    readJsonFields rest (fields.insert key first)

end

mutual

/-- No value is refused, whatever it is. -/
theorem readJson_eq : (json : Json) → readJson json = .ok (ofJson json)
  | .null => rfl
  | .bool _ => rfl
  | .number number => readNumber_eq number
  | .string _ => rfl
  | .array values => by
      rw [readJson, readJsonList_eq values]
      rfl
  | .object fields => by
      rw [readJson, readJsonFields_eq fields]
      rfl

/-- No element of a list is refused. -/
theorem readJsonList_eq : (values : List Json) → readJsonList values = .ok (ofJsonList values)
  | [] => rfl
  | value :: rest => by
      rw [readJsonList, readJson_eq value, readJsonList_eq rest]
      rfl

/-- No field is refused, and repeated keys collapse while they are read. -/
theorem readJsonFields_eq : (pairs : List (String × Json)) → (fields : Fields Value) →
    readJsonFields pairs fields =
      .ok ((ofJsonFields pairs).foldl (fun fields pair => fields.insert pair.1 pair.2) fields)
  | [], _ => rfl
  | (key, value) :: rest, fields => by
      rw [readJsonFields, readJson_eq value, ofJsonFields]
      exact readJsonFields_eq rest (fields.insert key (ofJson value))

end

end Value

/-- An item is read from its wire form field by field. -/
def Item.readWire (wire : WireItem) : Outcome Item :=
  Value.readJsonFields wire []

namespace Item

/-- No item from the wire is refused. -/
theorem readWire_eq (wire : WireItem) : readWire wire = .ok (ofWire wire) :=
  Value.readJsonFields_eq wire []

/-- An item comes back to the wire as it was, up to its large integers. -/
theorem toWire_ofWire {wire : WireItem} (distinct : wire.Distinct)
    (keyed : Json.KeyedFields wire) : toWire (ofWire wire) = Json.normalFields wire := by
  rw [ofWire, Value.ofList_ofJsonFields distinct, ← Value.ofJsonFields_eq_map, toWire,
    Value.toJsonFields_ofJsonFields wire keyed]

/-- An item that goes to the wire and back is the same item, kinds included. -/
theorem ofWire_toWire_ofWire (wire : WireItem) : ofWire (toWire (ofWire wire)) = ofWire wire :=
  Value.document.inj (Value.ofJson_toJson_ofJson (.object wire))

end Item

/-- An integer that needs a double gets a nearest one. -/
theorem JsonNumber.exists_isNearest {value : Int} (lower : -9223372036854775808 ≤ value)
    (upper : value < 18446744073709551616) (large : 9223372036854775808 ≤ value) :
    ∃ number, (integer value lower upper).normal = .number (.double number) ∧
      number.IsNearest value := by
  obtain ⟨number, rounded, same⟩ := Value.exists_normal_integer lower upper large
  exact ⟨number, same, Double.isNearest_of_ofInt (by omega) rounded⟩

namespace Value

/-- Every JSON value and every item in JSON is read. What was read is given out in its normal form,
where only integers beyond 64 bits with a sign have changed, to a nearest double. What is given out
is read as the same value again, with the same kinds of numbers. -/
theorem readJson_exact {json : Json} (keyed : json.Keyed) {wire : WireItem}
    (wireKeyed : (Json.object wire).Keyed) :
    (∃ value, readJson json = .ok value ∧ value.toJson = json.normal ∧
        readJson value.toJson = .ok value) ∧
      (∃ item, Item.readWire wire = .ok item ∧ item.toWire = Json.normalFields wire ∧
        Item.readWire item.toWire = .ok item) ∧
        ∀ (value : Int) (lower : -9223372036854775808 ≤ value)
          (upper : value < 18446744073709551616), 9223372036854775808 ≤ value →
            ∃ number, (JsonNumber.integer value lower upper).normal = .number (.double number) ∧
              number.IsNearest value := by
  refine ⟨⟨ofJson json, readJson_eq json, toJson_ofJson json keyed, ?_⟩,
    ⟨.ofWire wire, Item.readWire_eq wire, Item.toWire_ofWire wireKeyed.1 wireKeyed.2, ?_⟩, ?_⟩
  · rw [readJson_eq, ofJson_toJson_ofJson]
  · rw [Item.readWire_eq, Item.ofWire_toWire_ofWire]
  · intro value lower upper large
    exact JsonNumber.exists_isNearest lower upper large

/-- This is the double of `2 ^ 63 + 2048`, and the spacing of doubles is 2048 there. -/
def roundedLarge : FiniteDouble :=
  ⟨false, 4503599627370497, 1085, by decide, .inr (by decide), by decide⟩

/-- These numbers stand on both sides of the limits of 32 and 64 bits. The last one needs a double,
and none is equal to it. -/
def boundaryNumbers : List JsonNumber :=
  [.integer 2147483647 (by decide) (by decide), .integer 2147483648 (by decide) (by decide),
    .integer 9223372036854775807 (by decide) (by decide),
    .integer 9223372036854777857 (by decide) (by decide)]

def boundaryValues : List Value :=
  [.int32 2147483647, .int64 2147483648, .int64 9223372036854775807, .double (.finite roundedLarge)]

/-- This integer lies beyond the signed ones and is not a double itself. -/
theorem ofInt_roundedLarge : Double.ofInt 9223372036854777857 = .finite roundedLarge := by
  decide +kernel

/-- The numbers at the boundaries are read as different kinds. -/
theorem ofJson_boundaryNumbers :
    ofJson (.array (boundaryNumbers.map .number)) = .array boundaryValues := by
  simp [boundaryNumbers, boundaryValues, ofJson, ofNumber, ofInteger, ofInt_roundedLarge]

/-- Only the last of the numbers at the boundaries is rounded. -/
theorem normal_boundaryNumbers : (Json.array (boundaryNumbers.map .number)).normal =
    .array ((boundaryNumbers.take 3).map .number ++ [.number (.double roundedLarge)]) := by
  simp [boundaryNumbers, Json.normal, Json.normalList, JsonNumber.normal, ofInt_roundedLarge,
    doubleToJson]

theorem readJson_exact_boundaries :
    readJson (.array (boundaryNumbers.map .number)) = .ok (.array boundaryValues) ∧
      toJson (.array boundaryValues) =
        .array ((boundaryNumbers.take 3).map .number ++ [.number (.double roundedLarge)]) ∧
      Item.readWire [("b", .array (boundaryNumbers.map .number)), ("a", .null)] =
        .ok [("b", .array boundaryValues), ("a", .null)] ∧
      roundedLarge.IsNearest 9223372036854777857 := by
  have keyed : (Json.array (boundaryNumbers.map .number)).Keyed := by
    simp [boundaryNumbers, Json.Keyed, Json.KeyedList]
  have distinct : Fields.Distinct
      [("b", Json.array (boundaryNumbers.map .number)), ("a", .null)] := by
    simp [Fields.Distinct]
  obtain ⟨⟨value, read, given, -⟩, ⟨item, readItem, givenItem, -⟩, nearest⟩ :=
    readJson_exact keyed ⟨distinct, keyed, trivial, trivial⟩
  have known : value = .array boundaryValues := by
    rw [readJson_eq, ofJson_boundaryNumbers] at read
    exact (Except.ok.inj read).symm
  have knownItem : item = [("b", .array boundaryValues), ("a", .null)] := by
    rw [Item.readWire_eq, Item.ofWire, ofList_ofJsonFields distinct] at readItem
    rw [← Except.ok.inj readItem, ← ofJson_boundaryNumbers]
    rfl
  subst known knownItem
  obtain ⟨number, same, near⟩ :=
    nearest 9223372036854777857 (by decide) (by decide) (by decide)
  refine ⟨read, given.trans normal_boundaryNumbers, readItem, ?_⟩
  have isFirst : number = roundedLarge := by
    simpa [JsonNumber.normal, ofInt_roundedLarge, doubleToJson] using same.symm
  exact isFirst ▸ near

end Value

end DocumentStore
