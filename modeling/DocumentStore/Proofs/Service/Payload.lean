import DocumentStore.Service.Basic

/-!
This file shows that every request survives its form in JSON.

Only an explicit null is lost on the way. It is read back as an absent field, and no operation tells
the two apart. A request that was read from a payload has no explicit nulls, so it comes back as it
is.
-/

namespace DocumentStore

/-- A null in a payload stands for an absent field. -/
def Json.present? : Json → Option Json
  | .null => none
  | json => some json

theorem Json.present?_bind_present? (json : Json) :
    json.present?.bind Json.present? = json.present? := by
  cases json <;> rfl

/-- This reads a field that the payload may leave out. -/
def readField {β : Type} (read : Json → Except DecodeError (Option β)) (value : Option Json) :
    Except DecodeError (Option β) :=
  match value with
  | some json => read json
  | none => .ok none

/-- A written text is read back, present or not. -/
theorem readField_text (text : Option String) :
    readField optionalText (text.map .string) = .ok text := by
  cases text <;> rfl

/-- A written item is read back, present or not. -/
theorem readField_object (item : Option WireItem) :
    readField (Json.decodeOptional Json.decodeObject) (item.map .object) = .ok item := by
  cases item <;> rfl

/-- A written number is read back, present or not. -/
theorem readField_int64 (value : Option Int64) :
    readField optionalInt64 (value.map .ofInt64) = .ok value := by
  cases value with
  | none => rfl
  | some value =>
      have small : value.toInt < 9223372036854775808 := value.toInt_lt
      have decoded : Json.decodeInt64 (Json.ofInt64 value) = .ok (Int64.ofInt value.toInt) :=
        if_pos small
      rw [Int64.ofInt_toInt] at decoded
      exact congrArg (Except.map some) decoded

/-- An explicit null is read as an absent field. -/
theorem readField_json (json : Option Json) :
    readField optionalJson json = .ok (json.bind Json.present?) := by
  cases json with
  | none => rfl
  | some json => cases json <;> rfl

/-- What was read is never null. -/
theorem bind_present?_of_read {value : Json} {json : Option Json}
    (read : optionalJson value = .ok json) : json.bind Json.present? = json := by
  cases (readField_json (some value)).symm.trans read
  exact value.present?_bind_present?

namespace RecordFormat

variable {α : Type} {format : RecordFormat α}

/-- Storing the fields that are present, one after another, leads from one record to another. -/
inductive Stores (format : RecordFormat α) : α → List (String × Option Json) → α → Prop
  | nil (record : α) : Stores format record [] record
  | absent {record last : α} {rest : List (String × Option Json)} (key : String)
      (later : Stores format record rest last) : Stores format record ((key, none) :: rest) last
  | present {record next last : α} {rest : List (String × Option Json)} {key : String}
      {json : Json} (stored : format.store record key json = .ok next)
      (later : Stores format next rest last) :
      Stores format record ((key, some json) :: rest) last

namespace Stores

/-- A field is read, and then it changes the record. -/
theorem field {β : Type} {read : Json → Except DecodeError (Option β)} {record last : α}
    {key : String} {value : Option Json} {given : Option β} {rest : List (String × Option Json)}
    (reads : readField read value = .ok given) (change : Option β → α)
    (unchanged : change none = record)
    (stores : ∀ json, format.store record key json = do return change (← read json))
    (later : Stores format (change given) rest last) :
    Stores format record ((key, value) :: rest) last := by
  cases value with
  | none =>
      cases reads
      exact .absent key (unchanged ▸ later)
  | some json =>
      change read json = .ok given at reads
      refine .present ?_ later
      rw [stores, reads]
      rfl

/-- Fields that are stored one after another give the record. -/
theorem storeAll {start record : α} {fields : List (String × Option Json)}
    (stores : Stores format start fields record) :
    (fields.filterMap fun (key, value) => value.map fun json => (key, json)).foldlM
      (fun record (key, value) => format.store record key value) start = .ok record := by
  induction stores with
  | nil record => rfl
  | absent key later inductionHypothesis => exact inductionHypothesis
  | present stored later inductionHypothesis =>
      change (format.store _ _ _ >>= _) = _
      rw [stored]
      exact inductionHypothesis

/-- A record that is written field by field is read field by field. -/
theorem decodeBody {record : α} {fields : List (String × Option Json)}
    (stores : Stores format format.initial fields record) :
    format.decodeBody (presentFields fields) = .ok record := by
  have stored : format.decode 0 (presentFields fields) = .ok record := stores.storeAll
  rw [RecordFormat.decodeBody, stored]
  rfl

end Stores

/-- A field is only stored when it can be read. -/
theorem exists_of_stored {β : Type} {reads : Except DecodeError β} {change : β → α} {next : α}
    (stored : (do return change (← reads)) = Except.ok next) :
    ∃ given, reads = .ok given ∧ change given = next := by
  cases reads with
  | error cause => cases stored
  | ok given =>
      cases stored
      exact ⟨given, rfl, rfl⟩

/-- A list of values is stored as the fields that it stands for, and so is an object. -/
theorem exists_storeAll_of_decode {least : Nat} {payload : Json} {record : α}
    (decoded : format.decode least payload = .ok record) :
    ∃ fields, format.storeAll fields = .ok record := by
  cases payload with
  | object fields => exact ⟨fields, decoded⟩
  | array values =>
      refine ⟨format.keys.zip values, ?_⟩
      change (format.storeAll (format.keys.zip values) >>= _) = _ at decoded
      cases stored : format.storeAll (format.keys.zip values) with
      | error cause =>
          rw [stored] at decoded
          cases decoded
      | ok value =>
          rw [stored] at decoded
          change (if values.length < least then _ else _) = _ at decoded
          split at decoded
          · cases decoded
          · split at decoded
            · cases decoded
            · exact decoded
  | _ => cases decoded

/-- A format keeps what holds at first and after every field that it stores. -/
structure Keeps (format : RecordFormat α) (Holds : α → Prop) : Prop where
  initial : Holds format.initial
  store : ∀ {record next : α} {key : String} {value : Json}, Holds record →
    format.store record key value = .ok next → Holds next

namespace Keeps

variable {Holds : α → Prop} {record : α}

/-- A property that every stored field keeps holds of the record that is read. -/
theorem foldlM (keeps : format.Keeps Holds) {fields : List (String × Json)} {start : α}
    (holds : Holds start) (stored : fields.foldlM
      (fun record (key, value) => format.store record key value) start = .ok record) :
    Holds record := by
  induction fields generalizing start with
  | nil =>
      cases stored
      exact holds
  | cons field rest inductionHypothesis =>
      obtain ⟨key, value⟩ := field
      change (format.store start key value >>= _) = _ at stored
      cases first : format.store start key value with
      | error cause =>
          rw [first] at stored
          cases stored
      | ok next =>
          rw [first] at stored
          exact inductionHypothesis (keeps.store holds first) stored

/-- Whatever payload a record is read from, it has what its format keeps. -/
theorem decodeBody (keeps : format.Keeps Holds) {payload : Json}
    (read : format.decodeBody payload = .ok record) : Holds record := by
  unfold RecordFormat.decodeBody at read
  cases decoded : format.decode 0 payload with
  | error cause =>
      rw [decoded] at read
      cases read
  | ok value =>
      rw [decoded] at read
      cases read
      obtain ⟨fields, stored⟩ := exists_storeAll_of_decode decoded
      exact keeps.foldlM keeps.initial stored

end Keeps

end RecordFormat

/-- A null filter has no constraint, like an absent one. -/
theorem Filter.compileWire_present (wire : Option Json) :
    compileWire (wire.bind Json.present?) = compileWire wire := by
  cases wire with
  | none => rfl
  | some json => cases json <;> rfl

/-- A null sort list asks for the order of insertion, like an absent one. -/
theorem SortList.ofWire_present (wire : Option Json) :
    ofWire (wire.bind Json.present?) = ofWire wire := by
  cases wire with
  | none => rfl
  | some json => cases json <;> rfl

namespace FindRequest

/-- An explicit null becomes an absent field. -/
def withoutNulls (request : FindRequest) : FindRequest :=
  { request with
    filter := request.filter.bind Json.present?
    sort := request.sort.bind Json.present? }

/-- A written search is read back without its nulls. -/
theorem ofPayload_toJson (request : FindRequest) :
    ofPayload request.toJson = .ok request.withoutNulls := by
  obtain ⟨collectionName, filter, sort, skip, limit⟩ := request
  apply RecordFormat.Stores.decodeBody
  refine .field (readField_text collectionName) (fun name => ⟨name, none, none, none, none⟩) rfl
    (fun _ => rfl) ?_
  refine .field (readField_json filter) (fun filter => ⟨collectionName, filter, none, none, none⟩)
    rfl (fun _ => rfl) ?_
  refine .field (readField_json sort) (fun sort => ⟨collectionName, _, sort, none, none⟩) rfl
    (fun _ => rfl) ?_
  refine .field (readField_int64 skip) (fun skip => ⟨collectionName, _, _, skip, none⟩) rfl
    (fun _ => rfl) ?_
  refine .field (readField_int64 limit) (fun limit => ⟨collectionName, _, _, skip, limit⟩) rfl
    (fun _ => rfl) ?_
  exact .nil _

/-- Only requests without explicit nulls are read. -/
theorem keeps_withoutNulls : format.Keeps fun request => request.withoutNulls = request where
  initial := rfl
  store := by
    intro record next key value plain stored
    obtain ⟨filterPlain, sortPlain⟩ : record.filter.bind Json.present? = record.filter ∧
        record.sort.bind Json.present? = record.sort :=
      ⟨congrArg FindRequest.filter plain, congrArg FindRequest.sort plain⟩
    dsimp only [format] at stored
    unfold withoutNulls
    split at stored
    -- Only the filter and the sort list may hold a null, and an unknown key changes nothing.
    case h_2 =>
      obtain ⟨filter, read, rfl⟩ := RecordFormat.exists_of_stored stored
      rw [bind_present?_of_read read, sortPlain]
    case h_3 =>
      obtain ⟨sort, read, rfl⟩ := RecordFormat.exists_of_stored stored
      rw [bind_present?_of_read read, filterPlain]
    case h_6 =>
      cases stored
      exact plain
    all_goals
      obtain ⟨given, -, rfl⟩ := RecordFormat.exists_of_stored stored
      rw [filterPlain, sortPlain]

/-- A search without its nulls has the same plan. -/
theorem plan_withoutNulls (request : FindRequest) : request.withoutNulls.plan = request.plan := by
  unfold plan
  rw [withoutNulls, Filter.compileWire_present, SortList.ofWire_present]
  rfl

end FindRequest

/-- A written request for an item is read back. -/
theorem ItemIdRequest.ofPayload_toJson (request : ItemIdRequest) :
    ofPayload request.toJson = .ok request := by
  obtain ⟨collectionName, itemId⟩ := request
  apply RecordFormat.Stores.decodeBody
  refine .field (readField_text collectionName) (fun name => ⟨name, none⟩) rfl (fun _ => rfl) ?_
  refine .field (readField_text itemId) (fun id => ⟨collectionName, id⟩) rfl (fun _ => rfl) ?_
  exact .nil _

/-- A written request with an item is read back. -/
theorem ItemRequest.ofPayload_toJson (request : ItemRequest) :
    ofPayload request.toJson = .ok request := by
  obtain ⟨collectionName, item⟩ := request
  apply RecordFormat.Stores.decodeBody
  refine .field (readField_text collectionName) (fun name => ⟨name, none⟩) rfl (fun _ => rfl) ?_
  refine .field (readField_object item) (fun item => ⟨collectionName, item⟩) rfl (fun _ => rfl) ?_
  exact .nil _

namespace CountRequest

/-- An explicit null becomes an absent field. -/
def withoutNulls (request : CountRequest) : CountRequest :=
  { request with filter := request.filter.bind Json.present? }

/-- A written count is read back without its nulls. -/
theorem ofPayload_toJson (request : CountRequest) :
    ofPayload request.toJson = .ok request.withoutNulls := by
  obtain ⟨collectionName, filter⟩ := request
  apply RecordFormat.Stores.decodeBody
  refine .field (readField_text collectionName) (fun name => ⟨name, none⟩) rfl (fun _ => rfl) ?_
  refine .field (readField_json filter) (fun filter => ⟨collectionName, filter⟩) rfl
    (fun _ => rfl) ?_
  exact .nil _

theorem keeps_withoutNulls : format.Keeps fun request => request.withoutNulls = request where
  initial := rfl
  store := by
    intro record next key value plain stored
    have filterPlain : record.filter.bind Json.present? = record.filter :=
      congrArg CountRequest.filter plain
    dsimp only [format] at stored
    unfold withoutNulls
    split at stored
    · obtain ⟨name, -, rfl⟩ := RecordFormat.exists_of_stored stored
      rw [filterPlain]
    · obtain ⟨filter, read, rfl⟩ := RecordFormat.exists_of_stored stored
      rw [bind_present?_of_read read]
    · cases stored
      exact plain

end CountRequest

/-- Requests survive their form in JSON when each of them is read back as one that is used alike,
and when those that were read before are read back as they are. -/
structure SurvivesWire {α : Type} (write : α → Json) (read : Json → Outcome α)
    (Alike : α → α → Prop) : Prop where
  readBack : ∀ request, ∃ given, read (write request) = .ok given ∧ Alike given request
  unchanged : ∀ {payload request}, read payload = .ok request →
    read (write request) = .ok request

namespace Service

variable {σ : Type} (handler : Handler σ)

/-- A search answers the same without its nulls. -/
theorem find_withoutNulls (request : FindRequest) :
    find handler request.withoutNulls = find handler request := by
  unfold find
  rw [FindRequest.plan_withoutNulls]

/-- A count answers the same without its nulls. -/
theorem count_withoutNulls (request : CountRequest) :
    count handler request.withoutNulls = count handler request := by
  unfold count
  rw [CountRequest.withoutNulls, Filter.compileWire_present]

/-- A request that is written and read back is answered in the same way from every state and leaves
the same state behind, and only explicit nulls are lost on the way. -/
theorem requests_surviveWire :
    SurvivesWire FindRequest.toJson FindRequest.ofPayload (fun given request =>
      ∀ {σ : Type} (handler : Handler σ), find handler given = find handler request) ∧
    SurvivesWire ItemIdRequest.toJson ItemIdRequest.ofPayload (fun given request =>
      ∀ {σ : Type} (handler : Handler σ),
        get handler given = get handler request ∧ remove handler given = remove handler request) ∧
    SurvivesWire ItemRequest.toJson ItemRequest.ofPayload (fun given request =>
      ∀ {σ : Type} (handler : Handler σ),
        (∀ fresh, insert handler fresh given = insert handler fresh request) ∧
          update handler given = update handler request) ∧
    SurvivesWire CountRequest.toJson CountRequest.ofPayload (fun given request =>
      ∀ {σ : Type} (handler : Handler σ), count handler given = count handler request) := by
  refine ⟨⟨?_, ?_⟩, ⟨?_, ?_⟩, ⟨?_, ?_⟩, ⟨?_, ?_⟩⟩
  · intro request
    exact ⟨_, request.ofPayload_toJson, fun handler => find_withoutNulls handler request⟩
  · intro payload request read
    rw [request.ofPayload_toJson, FindRequest.keeps_withoutNulls.decodeBody read]
  · intro request
    exact ⟨request, request.ofPayload_toJson, fun handler => ⟨rfl, rfl⟩⟩
  · intro payload request read
    exact request.ofPayload_toJson
  · intro request
    exact ⟨request, request.ofPayload_toJson, fun handler => ⟨fun fresh => rfl, rfl⟩⟩
  · intro payload request read
    exact request.ofPayload_toJson
  · intro request
    exact ⟨_, request.ofPayload_toJson, fun handler => count_withoutNulls handler request⟩
  · intro payload request read
    rw [request.ofPayload_toJson, CountRequest.keeps_withoutNulls.decodeBody read]

/-- Explicit nulls are written, and they are read as absent fields. -/
example : FindRequest.ofPayload
    (((FindRequest.page "visits" 0 10).withFilter .null).withSort .null).toJson =
      .ok (FindRequest.page "visits" 0 10) := rfl

end Service

end DocumentStore
