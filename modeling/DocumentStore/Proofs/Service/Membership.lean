import DocumentStore.Proofs.Filter.Membership
import DocumentStore.Proofs.Service.Insertion
import DocumentStore.Proofs.Value.Date

/-!
This file shows which elements of a stored list are found. A searched value is read as a date when
it names one, and the elements of a stored list stay as they are, so such an element is missed.
-/

namespace DocumentStore

open DocumentStore.Action

namespace Value

/-- Only arrays are read as lists. -/
theorem not_isList_ofJson {json : Json} (noArray : ∀ elements, json ≠ .array elements) :
    ¬ (ofJson json).IsList := by
  cases json with
  | array elements => exact absurd rfl (noArray elements)
  | number number =>
      obtain ⟨double, isNumber⟩ := exists_number_ofNumber number
      change ¬ (ofNumber number).IsList
      unfold IsList
      split
      · next elements same =>
          rw [same] at isNumber
          cases isNumber
      · exact id
  | _ => exact id

/-- An element of a list is found in it unless it names a date. -/
theorem equals_element_iff {values : List Json} {value : Json} (inside : value ∈ values)
    (noArray : ∀ elements, value ≠ .array elements) :
    Equals (some (.array (values.map ofJson))) (ofJson value).decodeDate ↔
      ∀ instant, ¬ (ofJson value).Names instant := by
  have noList := not_isList_ofJson noArray
  by_cases named : ∃ instant, (ofJson value).Names instant
  · obtain ⟨instant, named⟩ := named
    rw [decodeDate_of_names named, equals_array_iff id]
    apply iff_of_false
    · rintro ⟨element, member, same⟩
      obtain ⟨json, -, rfl⟩ := List.mem_map.mp member
      exact ofJson_ne_date json instant (same_right_date_iff.mp same)
    · intro plain
      exact plain instant named
  · have plain := not_exists.mp named
    rw [decodeDate_of_not_names plain, equals_array_iff noList]
    apply iff_of_true _ plain
    exact ⟨ofJson value, List.mem_map_of_mem inside, (storable_ofJson value).same_refl⟩

end Value

namespace Filter

/-- A field has some of the listed values when it equals one of them, once its dates are decoded. -/
theorem accepts_hasSome_iff {item : Item} (storable : item.Storable) (field : FieldName)
    {values : List Json} (some : values ≠ []) :
    (compileOneOf field (.array (values.map Value.ofJson))).accepts item = true ↔
      ∃ value ∈ values,
        Value.Equals (item.get? field.text) (Value.ofJson value).decodeDate := by
  have leafStorable := storable_ofJson _ (ofJson_hasSome field values)
  have listed : values.map Value.ofJson ≠ [] := by simpa using some
  rw [accepts_iff_meaning leafStorable rfl storable, meaning_hasSome listed]
  simp only [List.mem_map, exists_exists_and_eq_and]

end Filter

namespace Item

/-- A list on the wire is read element by element. -/
theorem get?_ofWire_array {wire : WireItem} (distinct : Fields.Distinct wire) {key : String}
    {values : List Json} (holds : Fields.get? wire key = some (.array values)) :
    (ofWire wire).get? key = some (.array (values.map Value.ofJson)) := by
  rw [get?_ofWire distinct, holds, Option.map_some, Value.ofJson, Value.ofJsonList_eq_map]

/-- A list is no identifier. -/
theorem ne_idKey_of_array {item : Item} {found : Option String} (read : item.id? = .ok found)
    {key : String} {elements : List Value} (holds : item.get? key = some (.array elements)) :
    key ≠ idKey := by
  rintro rfl
  rw [id?, holds] at read
  cases read

/-- An identifier is no list, so every list stays. -/
theorem get?_withId {item chosen : Item} {fresh id : String}
    (done : item.withId fresh = .ok (id, chosen)) {key : String} {elements : List Value}
    (holds : item.get? key = some (.array elements)) :
    chosen.get? key = some (.array elements) := by
  unfold withId at done
  obtain ⟨found, read, done⟩ := Outcome.bind_eq_ok.mp done
  have other := ne_idKey_of_array read holds
  cases found with
  | none =>
      cases done
      rw [Fields.get?_insert, if_neg other.symm]
      exact holds
  | some known =>
      cases done
      exact holds

/-- The elements of a list are not decoded. -/
theorem get?_decodeDates_array {item : Item} {key : String} {elements : List Value}
    (holds : item.get? key = some (.array elements)) :
    item.decodeDates.get? key = some (.array elements) := by
  rw [get?_decodeDates, holds, Option.map_some]
  split <;> rfl

end Item

namespace ItemRequest

variable {collection target id key : String} {wire : WireItem} {item : Item} {values : List Json}

/-- An item that is added keeps the elements of its lists as they are. -/
theorem get?_of_addition (distinct : Fields.Distinct wire) {fresh : String}
    (added : addition { collectionName := some collection, item := some wire } fresh =
      .ok (target, id, item)) (holds : Fields.get? wire key = some (.array values)) :
    target = collection ∧ item.get? key = some (.array (values.map Value.ofJson)) := by
  obtain ⟨named, -⟩ := collection_of_addition added
  unfold addition at added
  obtain ⟨name, -, added⟩ := Outcome.bind_eq_ok.mp added
  obtain ⟨source, required, added⟩ := Outcome.bind_eq_ok.mp added
  obtain ⟨⟨chosen, parsed⟩, withId, added⟩ := Outcome.bind_eq_ok.mp added
  cases added
  cases required
  refine ⟨(Option.some.inj named).symm, ?_⟩
  apply Item.get?_decodeDates_array
  apply Item.get?_withId withId
  exact Item.get?_ofWire_array distinct holds

/-- An item that replaces another keeps the elements of its lists as they were sent. -/
theorem get?_of_replacement (distinct : Fields.Distinct wire)
    (replaced : replacement { collectionName := some collection, item := some wire } =
      .ok (target, id, item)) (holds : Fields.get? wire key = some (.array values)) :
    target = collection ∧ item.get? key = some (.array (values.map Value.ofJson)) := by
  unfold replacement at replaced
  obtain ⟨name, titled, replaced⟩ := Outcome.bind_eq_ok.mp replaced
  obtain ⟨source, required, replaced⟩ := Outcome.bind_eq_ok.mp replaced
  obtain ⟨found, read, replaced⟩ := Outcome.bind_eq_ok.mp replaced
  cases required
  cases found with
  | none => cases replaced
  | some text =>
      cases replaced
      refine ⟨(Option.some.inj (requireText_eq_ok_iff.mp titled).1).symm, ?_⟩
      apply Item.get?_decodeDates_array
      exact Item.get?_ofWire_array distinct holds

end ItemRequest

/-- An operation writes an item when it is to add it or to put it in the place of another. -/
inductive Operation.Writes (collection : String) (wire : WireItem) : Operation → Prop
  | insert (fresh : String) (named : fresh ≠ "") :
      Writes collection wire
        (.insert fresh named { collectionName := some collection, item := some wire })
  | update :
      Writes collection wire (.update { collectionName := some collection, item := some wire })

/-- An item that has been written stands under its identifier. -/
theorem Catalog.exists_written {catalog next : Catalog} {operation : Operation}
    {collection : String} {wire : WireItem} (distinct : Fields.Distinct wire)
    (writes : operation.Writes collection wire) {given : ItemResponse}
    (performed : perform operation catalog = (.ok (.item given), next)) {key : String}
    {values : List Json} (holds : Fields.get? wire key = some (.array values)) :
    ∃ id item, (next.shelf collection).get? id = some item ∧ given.item = item.outbound ∧
      item.get? key = some (.array (values.map Value.ofJson)) := by
  cases writes with
  | insert fresh named =>
      cases added : ItemRequest.addition
          { collectionName := some collection, item := some wire } fresh with
      | error error =>
          rw [perform, run_lift_bind_of_error added] at performed
          cases performed
      | ok addition =>
          obtain ⟨target, id, item⟩ := addition
          obtain ⟨rfl, kept⟩ := ItemRequest.get?_of_addition distinct added holds
          rw [perform_insert catalog named added] at performed
          split at performed
          · cases performed
          · next absent =>
              cases performed
              refine ⟨id, item, ?_, rfl, kept⟩
              rw [shelf_put, if_pos rfl, Fields.get?_append, Fields.get?_eq_none_iff.mpr absent,
                Option.none_or, Fields.get?, if_pos rfl]
  | update =>
      cases replaced : ItemRequest.replacement
          { collectionName := some collection, item := some wire } with
      | error error =>
          rw [perform, run_lift_bind_of_error replaced] at performed
          cases performed
      | ok replacement =>
          obtain ⟨target, id, item⟩ := replacement
          obtain ⟨rfl, kept⟩ := ItemRequest.get?_of_replacement distinct replaced holds
          rw [perform_update catalog replaced] at performed
          split at performed
          · next member =>
              cases performed
              refine ⟨id, item, ?_, rfl, kept⟩
              rw [shelf_put, if_pos rfl]
              exact Shelf.get?_replace_self member item
          · cases performed

namespace Service

variable {store : Store}

/-- A search for an element of a stored list returns its item unless the element names a date. -/
theorem find_element (sound : store.catalog.Sound) {collection : String} {item : Item}
    (member : item ∈ store.items collection) {field : FieldName} {values : List Json}
    (holds : item.get? field.text = some (.array (values.map Value.ofJson))) {value : Json}
    (inside : value ∈ values) (noArray : ∀ elements, value ≠ .array elements) {limit : Int64}
    (positive : 0 < limit.toInt)
    (enough : (store.items collection).length ≤ limit.toInt.toNat) :
    ∃ response,
      find Store.handle ((FindRequest.page collection 0 limit).withFilter
        (.leaf .hasSome field.text (.array [value]))) store = (.ok response, store) ∧
      (item.outbound ∈ response.items ↔ ∀ instant, ¬ (Value.ofJson value).Names instant) := by
  have known := Store.get?_shelf sound member
  have titled : collection ≠ "" :=
    sound.titled collection (sound.opened_of_mem (Fields.mem_keys_iff.mpr ⟨item, known⟩))
  have storable := (Store.settled_of_sound sound collection item member).storable
  obtain ⟨response, answered, found⟩ := find_matching sound titled
    (Filter.compileWire_hasSome field [value]) positive enough
  refine ⟨response, answered, ?_⟩
  rw [found, outbound_mem_map_filter sound member,
    Filter.accepts_hasSome_iff storable field (List.cons_ne_nil value []), holds,
    ← Value.equals_element_iff inside noArray]
  simp

/-- An item that has been written with a list is found by an element of the list, at once and after
all later operations that do not alter the item, unless the element names a date. -/
theorem find_hasSome_iff (reachable : store.Reachable) {operation : Operation}
    {collection : String} {wire : WireItem} (distinct : Fields.Distinct wire)
    (writes : operation.Writes collection wire) {given : ItemResponse} {next : Store}
    (answered : operation.perform store = (.ok (.item given), next)) {field : FieldName}
    {values : List Json} (holds : Fields.get? wire field.text = some (.array values)) :
    ∃ id, Fields.get? given.item idKey = some (.string id) ∧
      ∀ later : List Operation, (∀ operation ∈ later, ¬ operation.Alters collection id) →
        ∀ value ∈ values, (∀ elements, value ≠ .array elements) →
        ∀ limit : Int64, 0 < limit.toInt →
        ((session Operation.perform later next).2.items collection).length ≤ limit.toInt.toNat →
          ∃ response,
            find Store.handle ((FindRequest.page collection 0 limit).withFilter
                (.leaf .hasSome field.text (.array [value])))
              (session Operation.perform later next).2 =
                (.ok response, (session Operation.perform later next).2) ∧
            (given.item ∈ response.items ↔
              ∀ instant, ¬ (Value.ofJson value).Names instant) := by
  have sound := reachable.sound
  have performed := perform_catalog sound operation
  have nextSound := sound.perform operation
  rw [answered] at performed
  rw [performed] at nextSound
  obtain ⟨id, item, stored, isGiven, kept⟩ :=
    Catalog.exists_written distinct writes performed holds
  have settled := Store.settled_of_sound nextSound collection item (Store.mem_items_of_get? stored)
  have known := Store.get?_shelf nextSound (Store.mem_items_of_get? stored)
  refine ⟨item.idText, isGiven ▸ settled.get?_outbound_id, ?_⟩
  intro later unaltered value inside noArray limit positive enough
  -- The item stays under its identifier, so the search meets the list that was written.
  have remains := Catalog.get?_shelf_session unaltered known
  have laterSound := nextSound.session later
  rw [session_catalog later nextSound] at remains laterSound
  rw [isGiven]
  exact find_element laterSound (Store.mem_items_of_get? remains) kept inside noArray positive
    enough

/-- This is an item with a list in which a word and the text of a date stand. -/
def taggedItem : WireItem :=
  [("tags", .array [.string "red", .string "2024-01-01T00:00:00.000"])]

/-- The tag of this item has the form of a date. -/
def addTagged : Operation :=
  .insert "first" (by decide) { collectionName := some "meetings", item := some taggedItem }

def addUntagged : List Operation :=
  [.insert "second" (by decide) { collectionName := some "meetings", item := some [] }]

/-- This search gives one tag to look for. -/
def findTag (tag : String) : FindRequest :=
  (FindRequest.page "meetings" 0 2).withFilter (.leaf .hasSome "tags" (.array [.string tag]))

/-- After another item has been added, the word is found, and the text of a date is missed. -/
theorem find_hasSome_tags :
    ∃ (given : ItemResponse) (next : Store) (byWord byDate : FindResponse),
      addTagged.perform .empty = (.ok (.item given), next) ∧
      find Store.handle (findTag "red") (session Operation.perform addUntagged next).2 =
        (.ok byWord, (session Operation.perform addUntagged next).2) ∧
      given.item ∈ byWord.items ∧
      find Store.handle (findTag "2024-01-01T00:00:00.000")
        (session Operation.perform addUntagged next).2 =
          (.ok byDate, (session Operation.perform addUntagged next).2) ∧
      given.item ∉ byDate.items := by
  let field : FieldName := ⟨"tags", by decide⟩
  let next : Store := (addTagged.perform .empty).2
  let given : ItemResponse := ⟨taggedItem.normalForm "first"⟩
  have reachable : Store.Reachable .empty := ⟨[], rfl⟩
  have distinct : Fields.Distinct taggedItem := List.nodup_singleton _
  have answered : addTagged.perform .empty = (.ok (.item given), next) := rfl
  obtain ⟨id, -, searched⟩ := find_hasSome_iff reachable distinct
    (.insert "first" (by decide)) answered (rfl : Fields.get? taggedItem field.text = _)
  have unaltered : ∀ operation ∈ addUntagged, ¬ operation.Alters "meetings" id := by
    intro operation member
    rw [List.mem_singleton.mp member]
    exact fun altered => altered
  have enough : ((session Operation.perform addUntagged next).2.items "meetings").length ≤
      (2 : Int64).toInt.toNat := by decide
  obtain ⟨byWord, wordAnswered, wordFound⟩ := searched addUntagged unaltered (.string "red")
    (by simp) nofun 2 (by decide) enough
  obtain ⟨byDate, dateAnswered, dateFound⟩ := searched addUntagged unaltered
    (.string "2024-01-01T00:00:00.000") (by simp) nofun 2 (by decide) enough
  have plain : ∀ instant, ¬ (Value.ofJson (.string "red")).Names instant := by
    intro instant named
    cases named with
    | string read => cases read
  have dated : ∃ instant, (Value.ofJson (.string "2024-01-01T00:00:00.000")).Names instant :=
    ⟨_, .string rfl⟩
  refine ⟨given, next, byWord, byDate, answered, wordAnswered, wordFound.mpr plain,
    dateAnswered, ?_⟩
  rw [dateFound]
  exact not_forall_not.mpr dated

end Service

end DocumentStore
