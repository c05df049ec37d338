import DocumentStore.Proofs.Value.RoundTrip

/-!
This file shows what the conversion of dates keeps. The wrapper of a date is read as the same date
or not at all, and an item that has been converted to its wire form is not changed again.
-/

namespace DocumentStore

namespace Value

/-- A payload stands for an instant as an ISO text, as a count of milliseconds or as a date. -/
inductive PayloadNames : Value → Instant → Prop
  | string {text : String} {instant : Instant} (read : Instant.ofIso? text = some instant) :
      PayloadNames (.string text) instant
  | int64 (milliseconds : Int64) : PayloadNames (.int64 milliseconds) ⟨milliseconds⟩
  | int32 (milliseconds : Int32) : PayloadNames (.int32 milliseconds) ⟨milliseconds.toInt64⟩
  | date (instant : Instant) : PayloadNames (.date instant) instant

/-- A value names an instant as a date, as an ISO text or as a wrapper that can be read. -/
inductive Names : Value → Instant → Prop
  | date (instant : Instant) : Names (.date instant) instant
  | string {text : String} {instant : Instant} (read : Instant.ofIso? text = some instant) :
      Names (.string text) instant
  | wrapper {key : String} {payload : Value} {instant : Instant}
      (tag : key = "date" ∨ key = "$date") (named : payload.PayloadNames instant) :
      Names (.document [(key, payload)]) instant

/-- A payload is read as an instant exactly when it names this instant. -/
theorem payloadInstant?_eq_some_iff {payload : Value} {instant : Instant} :
    payload.payloadInstant? = some instant ↔ payload.PayloadNames instant := by
  constructor
  · intro read
    cases payload with
    | string text => exact .string read
    | int64 milliseconds =>
        cases read
        exact .int64 milliseconds
    | int32 milliseconds =>
        cases read
        exact .int32 milliseconds
    | date instant =>
        cases read
        exact .date instant
    | _ => cases read
  · intro named
    cases named with
    | string read => exact read
    | int64 milliseconds => rfl
    | int32 milliseconds => rfl
    | date instant => rfl

/-- Besides a date, the values that become dates are those that name one. -/
theorem names_iff {value : Value} {instant : Instant} :
    value.Names instant ↔ value = .date instant ∨ value.instant? = some instant := by
  constructor
  · intro named
    cases named with
    | date instant => exact .inl rfl
    | string read => exact .inr read
    | wrapper tag named =>
        rename_i key payload
        have known : key = dateTag ∨ key = legacyDateTag := tag
        rw [instant?, wrappedInstant?, if_pos known]
        exact .inr (payloadInstant?_eq_some_iff.mpr named)
  · rintro (rfl | read)
    · exact .date instant
    · cases value with
      | string text => exact .string read
      | document fields =>
          -- A wrapper has one key, so longer documents name nothing.
          cases fields with
          | nil => cases read
          | cons field rest =>
              cases rest with
              | nil =>
                  obtain ⟨key, payload⟩ := field
                  rw [instant?, wrappedInstant?] at read
                  split at read
                  · next tag => exact .wrapper tag (payloadInstant?_eq_some_iff.mp read)
                  · cases read
              | cons other others => cases read
      | _ => cases read

/-- A value that names an instant is decoded to its date. -/
theorem decodeDate_of_names {value : Value} {instant : Instant} (named : value.Names instant) :
    value.decodeDate = date instant := by
  rcases names_iff.mp named with rfl | read
  · rfl
  · exact decodeDate_of_some read

/-- A value that names no instant is left as it is. -/
theorem decodeDate_of_not_names {value : Value} (plain : ∀ instant, ¬ value.Names instant) :
    value.decodeDate = value := by
  apply decodeDate_of_none
  cases read : value.instant? with
  | none => rfl
  | some instant => exact absurd (names_iff.mpr (.inr read)) (plain instant)

theorem encodeDate_of_not_names {value : Value} (plain : ∀ instant, ¬ value.Names instant) :
    value.encodeDate = value := by
  apply encodeDate_of_ne_date
  rintro instant rfl
  exact plain instant (.date instant)

/-- An encoded date is no date any more, so encoding again changes nothing. -/
theorem encodeDate_encodeDate (value : Value) : value.encodeDate.encodeDate = value.encodeDate := by
  cases value <;> rfl

/-- A value that has been converted to its wire form is read and written as before. -/
theorem encodeDate_decodeDate_idempotent (value : Value) :
    value.decodeDate.encodeDate.decodeDate.encodeDate = value.decodeDate.encodeDate := by
  by_cases dated : ∃ instant, value.Names instant
  · obtain ⟨instant, named⟩ := dated
    rw [decodeDate_of_names named, decodeDate_encodeDate_date]
    split
    · rfl
    · exact encodeDate_encodeDate _
  · have plain := not_exists.mp dated
    rw [decodeDate_of_not_names plain, encodeDate_of_not_names plain,
      decodeDate_of_not_names plain, encodeDate_of_not_names plain]

/-- The wrapper of a date is read as that date when its year has four digits, from the first to the
last millisecond of these years. Else it stays a document, so it is never read as another date. -/
theorem decodeDate_encodeDate_iff (instant : Instant) :
    encodeDate (date instant) = document [("date", string (String.ofList instant.wire))] ∧
      (decodeDate (encodeDate (date instant)) = date instant ↔ instant.HasFourDigitYear) ∧
      (¬ instant.HasFourDigitYear →
        decodeDate (encodeDate (date instant)) = encodeDate (date instant)) ∧
      (∀ other, decodeDate (encodeDate (date instant)) = date other → other = instant) ∧
      (instant.HasFourDigitYear ↔ -62167219200000 ≤ instant.milliseconds.toInt ∧
        instant.milliseconds.toInt < 253402300800000) := by
  refine ⟨rfl, ?_, ?_, ?_, instant.hasFourDigitYear_iff⟩
  all_goals rw [decodeDate_encodeDate_date]
  · split
    · next near => exact iff_of_true rfl near
    · next far => exact iff_of_false nofun far
  · intro far
    rw [if_neg far]
  · intro other read
    split at read
    · exact (date.inj read).symm
    · cases read

/-- The last millisecond of the year 9999 comes back, and the next one does not. -/
theorem decodeDate_encodeDate_lastYear :
    decodeDate (encodeDate (date ⟨253402300799999⟩)) = date ⟨253402300799999⟩ ∧
      decodeDate (encodeDate (date ⟨253402300800000⟩)) =
        document [("date", string "+10000-01-01T00:00:00.000")] := by
  obtain ⟨-, near, -⟩ := decodeDate_encodeDate_iff ⟨253402300799999⟩
  obtain ⟨-, -, far, -⟩ := decodeDate_encodeDate_iff ⟨253402300800000⟩
  exact ⟨near.mpr (by decide), far (by decide)⟩

end Value

namespace Item

/-- This is the wire form of an item, and other spellings of dates become wrappers. -/
def normalizeDates (item : Item) : Item :=
  item.decodeDates.encodeDates

/-- Normalizing goes through the fields one by one. -/
theorem normalizeDates_eq_map (item : Item) : item.normalizeDates = item.map fun field =>
    (field.1, if field.1 = idKey then field.2.encodeDate else field.2.decodeDate.encodeDate) := by
  rw [normalizeDates, decodeDates, encodeDates, List.map_map]
  apply List.map_congr_left
  intro field _
  by_cases isId : field.1 = idKey
  · simp [isId]
  · simp [isId]

/-- Normalizing keeps all keys in order. -/
theorem keys_normalizeDates (item : Item) : item.normalizeDates.keys = item.keys := by
  rw [normalizeDates_eq_map]
  exact Fields.keys_mapValues item fun key value =>
    if key = idKey then value.encodeDate else value.decodeDate.encodeDate

/-- Normalization changes nothing in an item that is normal. Every field keeps its place and its
key. A value that names a date becomes the wrapper of that date, but an identifier only when it is
a date, and every other value stays as it is. -/
theorem normalizeDates_idempotent (item : Item) :
    item.normalizeDates.normalizeDates = item.normalizeDates ∧
      item.normalizeDates.keys = item.keys ∧
      List.Forall₂ (fun field normal =>
          (∀ instant, field.2.Names instant → field.1 ≠ "_id" ∨ field.2 = .date instant →
            normal = (field.1, .document [("date", .string (String.ofList instant.wire))])) ∧
          ((∀ instant, field.2.Names instant → field.1 = "_id" ∧ field.2 ≠ .date instant) →
            normal = field))
        item item.normalizeDates := by
  refine ⟨?_, item.keys_normalizeDates, ?_⟩
  · rw [normalizeDates_eq_map, normalizeDates_eq_map, List.map_map]
    apply List.map_congr_left
    intro field _
    by_cases isId : field.1 = idKey
    · simp [isId, Value.encodeDate_encodeDate]
    · simp [isId, Value.encodeDate_decodeDate_idempotent]
  · rw [normalizeDates_eq_map, List.forall₂_map_right_iff, List.forall₂_same]
    rintro ⟨key, value⟩ _
    constructor
    · intro instant named free
      by_cases isId : key = idKey
      -- Nothing is decoded under the identifier, so only a native date is encoded there.
      · have dated : value = .date instant := free.resolve_left fun other => other isId
        rw [dated, if_pos isId]
        rfl
      · rw [if_neg isId, Value.decodeDate_of_names named]
        rfl
    · intro kept
      by_cases isId : key = idKey
      · have noDate : ∀ instant, value ≠ .date instant := by
          rintro instant rfl
          exact (kept instant (.date instant)).2 rfl
        rw [if_pos isId, Value.encodeDate_of_ne_date noDate]
      · have plain : ∀ instant, ¬ value.Names instant :=
          fun instant named => isId (kept instant named).1
        rw [if_neg isId, Value.decodeDate_of_not_names plain, Value.encodeDate_of_not_names plain]

/-- The text of the last field names a date behind the year 9999. -/
def lateVisit : Item :=
  [("_id", .string "2024-01-01T00:00:00.0"), ("note", .string "2024-01-01"),
    ("at", .string "9999-12-31T23:30:00.000-01:00")]

/-- The identifier stays a text, and the wrapper of the late date is not changed again. -/
theorem normalizeDates_idempotent_lateVisit :
    lateVisit.normalizeDates =
      [("_id", .string "2024-01-01T00:00:00.0"), ("note", .string "2024-01-01"),
        ("at", .document [("date", .string "+10000-01-01T00:30:00.000")])] ∧
    lateVisit.normalizeDates.normalizeDates = lateVisit.normalizeDates := by
  have late : Instant.ofIso? "9999-12-31T23:30:00.000-01:00" = some ⟨253402302600000⟩ := rfl
  have wire : String.ofList (Instant.wire ⟨253402302600000⟩) = "+10000-01-01T00:30:00.000" := rfl
  have noDate : Instant.ofIso? "2024-01-01" = none := rfl
  obtain ⟨again, -, fields⟩ := lateVisit.normalizeDates_idempotent
  refine ⟨?_, again⟩
  obtain ⟨id, _, ⟨-, idKept⟩, others, same⟩ := List.forall₂_cons_left_iff.mp fields
  obtain ⟨note, _, ⟨-, noteKept⟩, last, rfl⟩ := List.forall₂_cons_left_iff.mp others
  obtain ⟨visit, _, ⟨wrapped, -⟩, nothing, rfl⟩ := List.forall₂_cons_left_iff.mp last
  cases nothing
  have idSame := idKept fun _ _ => ⟨rfl, nofun⟩
  have noteSame := noteKept fun instant named => by
    cases named with
    | string read => cases noDate.symm.trans read
  have visitWrapped := wrapped _ (.string late) (.inl (by decide))
  rw [wire] at visitWrapped
  rw [same, idSame, noteSame, visitWrapped]

end Item

end DocumentStore
