import DocumentStore.Proofs.Filter.Wire
import DocumentStore.Proofs.Service.Paging
import DocumentStore.Proofs.Value.RoundTrip

/-!
This file shows which items are found by the values that they are given out with.

A filter reads every text that looks like a date as a date, also when the text is compared with an
identifier. An identifier that looks like a date is therefore never found. A date is found unless
its year does not have four digits.
-/

namespace DocumentStore

open DocumentStore.Action

namespace Value

/-- A stored date only equals itself. -/
theorem equals_date_iff {instant : Instant} {value : Value} :
    Equals (some (date instant)) value ↔ value = date instant := by
  rw [← same_date_iff]
  simp [Equals]

/-- A stored text only equals itself. -/
theorem equals_string_iff {text : String} {value : Value} :
    Equals (some (string text)) value ↔ value = string text := by
  rw [← same_string_iff]
  simp [Equals]

end Value

namespace Comparison

open Value

/-- A filter looks for an identifier as it is, unless it reads the identifier as a date. -/
theorem tests_text_iff (stored text : String) :
    eq.Tests (some (.string stored)) (.string text) ↔
      Instant.ofIso? text = none ∧ stored = text := by
  have notNull : Value.string text ≠ .null := nofun
  rw [tests_iff_relates notNull]
  change Equals (some (.string stored)) (Value.string text).decodeDate ↔ _
  have read : (Value.string text).instant? = Instant.ofIso? text := rfl
  rw [equals_string_iff, ← read]
  cases named : (Value.string text).instant? with
  | none =>
      rw [decodeDate_of_none named]
      simp [eq_comm]
  | some instant =>
      rw [decodeDate_of_some named]
      simp

/-- A date is found by its own form on the wire when the year has four digits. -/
theorem tests_date_iff (instant : Instant) :
    eq.Tests (some (.date instant)) (ofJson (toJson (encodeDate (.date instant)))) ↔
      instant.HasFourDigitYear := by
  have notNull : ofJson (toJson (encodeDate (.date instant))) ≠ .null := nofun
  rw [tests_iff_relates notNull]
  change Equals (some (.date instant)) (returned (.date instant)) ↔ _
  rw [equals_date_iff, returned_date]
  split <;> simp_all

/-- A stored value is found by its wire form, unless it is a date in a far year. -/
theorem tests_wire_iff (json : Json) {value : Value} (decoded : value = (ofJson json).decodeDate) :
    eq.Tests (some value) (ofJson (toJson value.encodeDate)) ↔
      ∀ instant, value = .date instant → instant.HasFourDigitYear := by
  by_cases dated : ∃ instant, value = .date instant
  · obtain ⟨instant, rfl⟩ := dated
    rw [tests_date_iff]
    simp
  · have plain : ∀ instant, value ≠ .date instant := not_exists.mp dated
    have vacuous : ∀ instant, value = .date instant → instant.HasFourDigitYear :=
      fun instant same => absurd same (plain instant)
    apply iff_of_true _ vacuous
    subst decoded
    have storable := (storable_ofJson json).decodeDate
    by_cases isNull : (ofJson json).decodeDate = .null
    · rw [isNull]
      exact .inr rfl
    · have notNull : ofJson (toJson (ofJson json).decodeDate.encodeDate) ≠ .null := by
        rw [ofJson_toJson_of_not_date plain]
        exact isNull
      rw [tests_iff_relates notNull]
      change Equals (some (ofJson json).decodeDate) (returned (ofJson json).decodeDate)
      rw [returned_of_not_date plain]
      exact .inl storable.same_refl

end Comparison

/-- This is a filter in JSON that asks a field to equal a value. -/
def Json.equality (key : String) (value : Json) : Json :=
  .object [("operator", .string "$eq"), ("fieldName", .string key), ("value", value)]

/-- This asks for the first items whose field equals a value. -/
def FindRequest.equality (collection key : String) (value : Json) (limit : Int64) :
    FindRequest where
  collectionName := some collection
  filter := some (.equality key value)
  skip := some 0
  limit := some limit

namespace Filter

/-- A filter for equality compiles to one comparison. -/
theorem compileWire_equality (field : FieldName) (value : Json) :
    compileWire (some (.equality field.text value)) =
      .ok (compileComparison .eq field (Value.ofJson value)) :=
  compileWire_leaf (.compare .eq) field value

/-- A compiled filter accepts the items that it means. -/
theorem accepts_iff_meaning {filter : Filter} {predicate : Predicate}
    (filterStorable : filter.Storable) (compiled : filter.compile = .ok predicate) {item : Item}
    (itemStorable : item.Storable) : predicate.accepts item = true ↔ filter.Meaning item := by
  obtain ⟨answer, verdict, meaning⟩ := exists_verdict filterStorable compiled itemStorable
  rw [Predicate.accepts, verdict]
  exact meaning

/-- The comparison for equality accepts by the test of the stored field. -/
theorem accepts_equality_iff {item : Item} (storable : item.Storable) (field : FieldName)
    (value : Json) :
    (compileComparison .eq field (Value.ofJson value)).accepts item = true ↔
      Comparison.eq.Tests (item.get? field.text) (Value.ofJson value) := by
  have leafStorable : Storable (.leaf (.compare .eq) field (Value.ofJson value)) :=
    .leaf _ _ (Value.storable_ofJson value)
  rw [accepts_iff_meaning leafStorable rfl storable, Meaning, constraint?]
  rfl

end Filter

namespace Item

/-- Items are given out field by field. -/
theorem outbound_eq_map (item : Item) :
    item.outbound = item.map fun field => (field.1, field.2.encodeDate.toJson) := by
  rw [outbound, toWire, Value.toJsonFields_eq_map, encodeDates, List.map_map]
  rfl

/-- A field is given out under its own key. -/
theorem get?_outbound (item : Item) (key : String) :
    item.outbound.get? key = (item.get? key).map fun value => value.encodeDate.toJson := by
  rw [outbound_eq_map]
  exact Fields.get?_mapValues item (fun _ value => value.encodeDate.toJson) key

/-- An item is found by a field unless the field is an identifier that looks like a date, or a date
in a year that does not have four digits. -/
def FoundBy (item : Item) (field : FieldName) : Prop :=
  (field.text = idKey → Instant.ofIso? item.idText = none) ∧
    ∀ instant, item.get? field.text = some (.date instant) → instant.HasFourDigitYear

/-- The identifier is given out as it is. -/
theorem Settled.get?_outbound_id {item : Item} (settled : item.Settled) :
    item.outbound.get? idKey = some (.string item.idText) := by
  rw [get?_outbound, settled.get?_id]
  rfl

/-- What is given out for a field passes the test of the field exactly when the item is found by
it. -/
theorem Settled.tests_wire_iff {item : Item} (settled : item.Settled) {field : FieldName}
    {wire : Json} (given : item.outbound.get? field.text = some wire) :
    Comparison.eq.Tests (item.get? field.text) (Value.ofJson wire) ↔ item.FoundBy field := by
  rw [get?_outbound] at given
  obtain ⟨value, found, rfl⟩ := Option.map_eq_some_iff.mp given
  unfold FoundBy
  rw [found]
  by_cases isId : field.text = idKey
  · rw [isId, settled.get?_id] at found
    cases found
    have wired : Value.ofJson (Value.toJson (Value.encodeDate (.string item.idText))) =
        .string item.idText := rfl
    rw [wired, Comparison.tests_text_iff]
    simp [isId]
  · obtain ⟨json, decoded⟩ := settled.decoded _ (Fields.mem_of_get? found) isId
    rw [Comparison.tests_wire_iff json decoded]
    simp [isId]

end Item

namespace Service

variable {store : Store}

/-- This is the item that the service gives out for an identifier. There is none when the request
fails. -/
def givenItem (store : Store) (collection id : String) : List WireItem :=
  match (get Store.handle { collectionName := some collection, itemId := some id } store).1 with
  | .ok response => [response.item]
  | .error _ => []

/-- The item that is given out is the one on the shelf. -/
theorem givenItem_eq (sound : store.catalog.Sound) {collection : String} (titled : collection ≠ "")
    (id : String) :
    givenItem store collection id =
      ((store.catalog.shelf collection).get? id).toList.map Item.outbound := by
  by_cases blank : id = ""
  · subst blank
    have failed : get Store.handle { collectionName := some collection, itemId := some "" } store =
        (.error (.missing "itemId"), store) := by
      have addressed : ItemIdRequest.address
          { collectionName := some collection, itemId := some "" } =
            .error (.missing "itemId") := by
        rw [ItemIdRequest.address, requireCollection, requireText_eq_ok_iff.mpr ⟨rfl, titled⟩]
        rfl
      rw [get_eq, run_lift_bind_of_error addressed]
    rw [givenItem, failed, (sound.shelves collection).get?_blank]
    rfl
  · rw [givenItem, get_run sound (address_eq_ok titled blank), Catalog.lookup]
    cases (store.catalog.shelf collection).get? id <;> rfl

/-- A search with a large limit returns all items that match, in order of insertion. -/
theorem find_matching (sound : store.catalog.Sound) {collection : String}
    (titled : collection ≠ "") {filter : Json} {predicate : Predicate}
    (compiled : Filter.compileWire (some filter) = .ok predicate) {limit : Int64}
    (positive : 0 < limit.toInt)
    (enough : (store.items collection).length ≤ limit.toInt.toNat) :
    ∃ response,
      find Store.handle ((FindRequest.page collection 0 limit).withFilter filter) store =
        (.ok response, store) ∧
      response.items = ((store.items collection).filter predicate.accepts).map Item.outbound := by
  let request := (FindRequest.page collection 0 limit).withFilter filter
  have named : requireCollection request.collectionName = .ok collection :=
    requireText_eq_ok_iff.mpr ⟨rfl, titled⟩
  have sorted : SortList.ofWire request.sort = .ok [] := rfl
  have skipped : 0 ≤ (0 : Int64).toInt := Int.le_refl 0
  refine ⟨_, find_page sound named compiled sorted skipped positive, ?_⟩
  have all : ranked store collection predicate [] =
      (store.items collection).filter predicate.accepts := by
    rw [ranked, Order.sort_of_isEmpty _ rfl, Store.found_eq]
  have short : ((store.items collection).filter predicate.accepts).length ≤ limit.toInt.toNat :=
    (List.length_filter_le _ _).trans enough
  have first : (0 : Int64).toInt.toNat = 0 := rfl
  rw [all, first, List.drop_zero, List.take_of_length_le short]

/-- A search for equality answers with all items that pass the test. -/
theorem find_equality_run (sound : store.catalog.Sound) {collection : String}
    (titled : collection ≠ "") (field : FieldName) (value : Json) {limit : Int64}
    (positive : 0 < limit.toInt)
    (enough : (store.items collection).length ≤ limit.toInt.toNat) :
    ∃ response,
      find Store.handle (.equality collection field.text value limit) store =
        (.ok response, store) ∧
      response.items = ((store.items collection).filter
        (Filter.compileComparison .eq field (Value.ofJson value)).accepts).map Item.outbound :=
  find_matching sound titled (Filter.compileWire_equality field value) positive enough

/-- Different items are given out differently, because their identifiers differ. -/
theorem outbound_inj (sound : store.catalog.Sound) {collection : String} {left right : Item}
    (leftMember : left ∈ store.items collection) (rightMember : right ∈ store.items collection)
    (same : left.outbound = right.outbound) : left = right := by
  have settled := Store.settled_of_sound sound collection
  have leftId := (settled left leftMember).get?_outbound_id
  have rightId := (settled right rightMember).get?_outbound_id
  have sameId : left.idText = right.idText := by
    rw [same, rightId] at leftId
    exact (Json.string.inj (Option.some.inj leftId)).symm
  have known := Store.get?_shelf sound leftMember
  rw [sameId, Store.get?_shelf sound rightMember] at known
  exact (Option.some.inj known).symm

/-- Only the item itself stands for it among the items that are given out. -/
theorem outbound_mem_map_filter (sound : store.catalog.Sound) {collection : String} {item : Item}
    (member : item ∈ store.items collection) (keeps : Item → Bool) :
    item.outbound ∈ ((store.items collection).filter keeps).map Item.outbound ↔
      keeps item = true := by
  constructor
  · intro inside
    obtain ⟨other, kept, same⟩ := List.mem_map.mp inside
    obtain ⟨otherMember, holds⟩ := List.mem_filter.mp kept
    exact outbound_inj sound otherMember member same ▸ holds
  · intro holds
    exact List.mem_map_of_mem (List.mem_filter.mpr ⟨member, holds⟩)

/-- The search for an identifier returns the item that has it, unless the identifier is read as a
date. -/
theorem filter_equality_id (sound : store.catalog.Sound) (collection id : String) :
    (store.items collection).filter
        (Filter.compileComparison .eq .id (Value.ofJson (.string id))).accepts =
      if Instant.ofIso? id = none then ((store.catalog.shelf collection).get? id).toList
      else [] := by
  have settled := Store.settled_of_sound sound collection
  have accepted : ∀ item ∈ store.items collection,
      (Filter.compileComparison .eq .id (Value.ofJson (.string id))).accepts item = true ↔
        Instant.ofIso? id = none ∧ item.idText = id := by
    intro item member
    have stored : item.get? FieldName.id.text = some (.string item.idText) :=
      (settled item member).get?_id
    rw [Filter.accepts_equality_iff (settled item member).storable, stored]
    exact Comparison.tests_text_iff item.idText id
  -- A dated identifier is compared as a date, and no stored identifier is one.
  split
  · next plain =>
      have same : ∀ item ∈ store.items collection,
          (Filter.compileComparison .eq .id (Value.ofJson (.string id))).accepts item =
            decide (item.idText = id) := by
        intro item member
        rw [Bool.eq_iff_iff, accepted item member, decide_eq_true_iff]
        exact and_iff_right plain
      rw [List.filter_congr same, ← (sound.shelves collection).filter_idText,
        Store.shelf_catalog, items_shelve]
  · next dated =>
      apply List.filter_eq_nil_iff.mpr
      intro item member
      rw [accepted item member]
      exact fun both => dated both.1

/-- An item is found by a value that it is given out with, except by an identifier that looks like a
date and by a date in a far year. The search for an identifier finds what a request for it gives
out, or nothing when the identifier looks like a date. -/
theorem find_equality_iff (reachable : store.Reachable) {collection : String} {limit : Int64}
    (positive : 0 < limit.toInt)
    (enough : (store.items collection).length ≤ limit.toInt.toNat) :
    (∀ item ∈ store.items collection,
      givenItem store collection item.idText = [item.outbound] ∧
        ∀ (field : FieldName) (wire : Json), item.outbound.get? field.text = some wire →
          ∃ response,
            find Store.handle (.equality collection field.text wire limit) store =
              (.ok response, store) ∧
            (item.outbound ∈ response.items ↔ item.FoundBy field)) ∧
      (collection ≠ "" → ∀ id : String, ∃ response,
        find Store.handle (.equality collection idKey (.string id) limit) store =
          (.ok response, store) ∧
        response.items =
          if Instant.ofIso? id = none then givenItem store collection id else []) := by
  have sound := reachable.sound
  have settled := Store.settled_of_sound sound collection
  constructor
  · intro item member
    have known := Store.get?_shelf sound member
    have titled : collection ≠ "" :=
      sound.titled collection (sound.opened_of_mem (Fields.mem_keys_iff.mpr ⟨item, known⟩))
    constructor
    · rw [givenItem_eq sound titled, known]
      rfl
    · intro field wire given
      obtain ⟨response, answered, found⟩ :=
        find_equality_run sound titled field wire positive enough
      refine ⟨response, answered, ?_⟩
      rw [found, outbound_mem_map_filter sound member,
        Filter.accepts_equality_iff (settled item member).storable]
      exact (settled item member).tests_wire_iff given
  · intro titled id
    obtain ⟨response, answered, found⟩ :=
      find_equality_run sound titled .id (.string id) positive enough
    refine ⟨response, answered, ?_⟩
    rw [found, filter_equality_id sound, givenItem_eq sound titled]
    split <;> rfl

/-- This adds an item whose identifier looks like a date. -/
def addMeeting : List Operation :=
  [.insert "meeting" (by decide)
    { collectionName := some "meetings",
      item := some [("_id", .string "2024-01-01T00:00:00.000"), ("title", .string "start")] }]

/-- The item is given out and found by its title, and a search for its identifier misses it. -/
theorem find_equality_meeting :
    ∃ item : WireItem, ∃ byTitle byId : FindResponse,
      givenItem (session Operation.perform addMeeting .empty).2 "meetings"
        "2024-01-01T00:00:00.000" = [item] ∧
      find Store.handle (.equality "meetings" "title" (.string "start") 1)
        (session Operation.perform addMeeting .empty).2 =
          (.ok byTitle, (session Operation.perform addMeeting .empty).2) ∧
      item ∈ byTitle.items ∧
      find Store.handle (.equality "meetings" idKey (.string "2024-01-01T00:00:00.000") 1)
        (session Operation.perform addMeeting .empty).2 =
          (.ok byId, (session Operation.perform addMeeting .empty).2) ∧
      byId.items = [] := by
  have reachable : Store.Reachable (session Operation.perform addMeeting .empty).2 :=
    ⟨addMeeting, rfl⟩
  have enough : ((session Operation.perform addMeeting .empty).2.items "meetings").length ≤
      (1 : Int64).toInt.toNat := by decide
  obtain ⟨own, byId⟩ := find_equality_iff reachable (by decide : 0 < (1 : Int64).toInt) enough
  let item : Item := [("_id", .string "2024-01-01T00:00:00.000"), ("title", .string "start")]
  have stored : item ∈ (session Operation.perform addMeeting .empty).2.items "meetings" :=
    List.mem_singleton.mpr rfl
  obtain ⟨given, found⟩ := own item stored
  obtain ⟨byTitle, answered, inside⟩ := found ⟨"title", by decide⟩ (.string "start") rfl
  obtain ⟨missed, searched, nothing⟩ := byId (by decide) "2024-01-01T00:00:00.000"
  have dated : Instant.ofIso? "2024-01-01T00:00:00.000" ≠ none := by decide
  rw [if_neg dated] at nothing
  have foundBy : item.FoundBy ⟨"title", by decide⟩ := by
    constructor
    · decide
    · intro instant same
      cases same
  exact ⟨item.outbound, byTitle, missed, given, answered, inside.mpr foundBy, searched, nothing⟩

end Service

end DocumentStore
