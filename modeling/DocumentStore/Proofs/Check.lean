import DocumentStore.Proofs.Double.Finite
import DocumentStore.Proofs.Filter.Typing
import DocumentStore.Proofs.Filter.Violations
import DocumentStore.Sort

/-!
This file shows that a filter or a sort list is only refused when the request is to blame, and that
no number is refused at all.
-/

namespace DocumentStore

/-- A check passes, or the request is to blame. -/
def Outcome.IsCheck {α : Type} (outcome : Outcome α) : Prop :=
  ∀ error, outcome = .error error → error.kind = .badRequest

namespace Outcome

variable {α β : Type}

/-- Success is no fault. -/
theorem isCheck_ok (value : α) : IsCheck (.ok value) :=
  nofun

/-- A fault that blames the request is one of a check. -/
theorem isCheck_error {error : Error} (blamed : error.kind = .badRequest) :
    IsCheck (.error error : Outcome α) := by
  intro reported same
  cases same
  exact blamed

/-- Every request fault blames the request. -/
theorem isCheck_badRequest (fault : RequestFault) :
    IsCheck (.error (.badRequest fault) : Outcome α) :=
  isCheck_error rfl

/-- Checks may follow each other. -/
theorem IsCheck.bind {outcome : Outcome α} {next : α → Outcome β} (first : outcome.IsCheck)
    (second : ∀ value, (next value).IsCheck) : (outcome >>= next).IsCheck := by
  cases outcome with
  | error error => exact isCheck_error (first error rfl)
  | ok value => exact second value

/-- A function of the value neither adds nor removes an error. -/
theorem map_eq_error_iff {outcome : Outcome α} {next : α → β} {error : Error} :
    outcome.map next = .error error ↔ outcome = .error error := by
  cases outcome with
  | error fault => rw [Except.map, Except.error.injEq, Except.error.injEq]
  | ok value => exact ⟨nofun, nofun⟩

/-- A result comes from a value. -/
theorem exists_ok_of_map {outcome : Outcome α} {next : α → β} {result : β}
    (done : outcome.map next = .ok result) : ∃ value, outcome = .ok value := by
  cases outcome with
  | error fault => cases done
  | ok value => exact ⟨value, rfl⟩

/-- A function of the value keeps the faults of a check. -/
theorem IsCheck.map {outcome : Outcome α} (first : outcome.IsCheck) (next : α → β) :
    Outcome.IsCheck (outcome.map next) :=
  fun error failed => first error (map_eq_error_iff.mp failed)

/-- The checks of a list blame the request when each of them does. -/
theorem isCheck_mapM {check : α → Outcome β} (each : ∀ value, (check value).IsCheck)
    (values : List α) : IsCheck (values.mapM check) := by
  induction values with
  | nil => exact isCheck_ok []
  | cons value rest inductionHypothesis =>
      rw [List.mapM_cons]
      exact (each value).bind fun first => inductionHypothesis.bind fun others => isCheck_ok _

/-- A reader whose faults are all bad requests is a check. -/
theorem ReportsFirst.isCheck {π : Type} {Bad : π → Prop} {error : π → Error}
    {outcome : Outcome α} {places : List π} (reader : ReportsFirst Bad error outcome places)
    (blamed : ∀ place, (error place).kind = .badRequest) : outcome.IsCheck := by
  cases reader with
  | none good => exact isCheck_ok _
  | first after good bad => exact isCheck_error (blamed _)

end Outcome

open Outcome

/-- An operator that is not known is the fault of the request too. -/
theorem Violation.kind_error (violation : Violation) : violation.error.kind = .badRequest := by
  cases violation <;> rfl

/-- A value of the wrong type is the fault of the request. -/
theorem FieldTest.kind_typeError (test : FieldTest) : test.typeError.kind = .badRequest := by
  unfold typeError
  split <;> rfl

/-- A refused field name is the fault of the request. -/
theorem FieldName.isCheck_ofText (name : String) : (FieldName.ofText name).IsCheck := by
  unfold FieldName.ofText
  split
  · exact isCheck_ok _
  · exact isCheck_badRequest _

namespace Filter

/-- Whatever the reader of filters refuses is the fault of the request. -/
theorem isCheck_ofJson (json : Json) : (ofJson json).IsCheck :=
  (reports_ofJson json).isCheck Violation.kind_error

/-- What the reader has passed is checked by the compiler. -/
theorem isCheck_compile {json : Json} {filter : Filter} (read : ofJson json = .ok filter) :
    filter.compile.IsCheck :=
  (reports_compile filter (inherited_singleNegations.of_ofJson read)).isCheck
    FieldTest.kind_typeError

/-- The compilation of a filter only fails for its own faults. -/
theorem isCheck_compileWire (wire : Option Json) : (compileWire wire).IsCheck := by
  cases wire with
  | none => exact isCheck_ok _
  | some json =>
      rw [compileWire]
      cases read : ofJson json with
      | error error => exact isCheck_error (isCheck_ofJson json error read)
      | ok filter => exact isCheck_compile read

end Filter

/-- An unknown direction is the fault of the request. -/
theorem SortEntry.isCheck_directionOf (json : Option Json) : (directionOf json).IsCheck := by
  unfold directionOf
  split
  · exact isCheck_ok _
  · exact isCheck_ok _
  · split
    · exact isCheck_ok _
    · split
      · exact isCheck_ok _
      · exact isCheck_badRequest _
  · exact isCheck_badRequest _

theorem SortEntry.isCheck_ofJson (json : Json) : (SortEntry.ofJson json).IsCheck := by
  unfold SortEntry.ofJson
  split
  · next name found =>
      exact (FieldName.isCheck_ofText name).bind fun field =>
        (isCheck_directionOf _).bind fun direction => isCheck_ok _
  · exact isCheck_badRequest _

/-- Whatever the reader of sort lists refuses is the fault of the request. -/
theorem SortList.isCheck_ofWire (wire : Option Json) : (SortList.ofWire wire).IsCheck := by
  unfold SortList.ofWire
  split
  · exact isCheck_ok _
  · exact isCheck_ok _
  · next entries => exact isCheck_mapM SortEntry.isCheck_ofJson entries
  · exact isCheck_badRequest _

/-- This is the number of a double that is finite. -/
def Double.finite? : Double → Option FiniteDouble
  | finite number => some number
  | _ => none

namespace JsonNumber

/-- This is a number as an integer of 64 bits with a sign, if it is one. -/
def int64? : JsonNumber → Option Int64
  | integer value _ _ => if value < 9223372036854775808 then some (Int64.ofInt value) else none
  | double _ => none

/-- This is the nearest double, if it is finite. -/
def finite? : JsonNumber → Option FiniteDouble
  | integer value _ _ => (Double.ofInt value).finite?
  | double number => some number

/-- Integers on the wire are rounded to finite doubles. -/
theorem exists_finite?_integer {value : Int} (lower : -9223372036854775808 ≤ value)
    (upper : value < 18446744073709551616) :
    ∃ number, (integer value lower upper).finite? = some number ∧
      Double.ofInt value = .finite number := by
  obtain ⟨number, rounded⟩ := Double.exists_ofInt_eq_finite value (by omega)
  refine ⟨number, ?_, rounded⟩
  change (Double.ofInt value).finite? = some number
  rw [rounded]
  rfl

end JsonNumber

namespace Value

/-- An integer with a sign takes the narrower kind when that holds it. -/
def ofInt64 (value : Int64) : Value :=
  if -2147483648 ≤ value.toInt ∧ value.toInt < 2147483648 then int32 (Int32.ofInt value.toInt)
  else int64 value

/-- A number is read as an integer or as a double, and refused when it is neither. -/
def readNumber (number : JsonNumber) : Outcome Value :=
  match number.int64?, number.finite? with
  | some value, _ => .ok (ofInt64 value)
  | none, some value => .ok (double (.finite value))
  | none, none => .error (.serialization (.other ("Unrepresentable number " ++ number.text)))

/-- An integer of 64 bits is read as the integer it was made of. -/
theorem ofInt64_ofInt {value : Int} (lower : -9223372036854775808 ≤ value)
    (upper : value < 9223372036854775808) : ofInt64 (Int64.ofInt value) = ofInteger value := by
  have known : (Int64.ofInt value).toInt = value := Int64.toInt_ofInt_of_le lower upper
  unfold ofInt64 ofInteger
  rw [known, if_pos upper]

/-- No number is refused, because every integer of 64 bits has a finite double. -/
theorem readNumber_eq (number : JsonNumber) : readNumber number = .ok (ofNumber number) := by
  cases number with
  | double number => rfl
  | integer value lower upper =>
      by_cases signed : value < 9223372036854775808
      · have narrow := ofInt64_ofInt lower signed
        rw [readNumber, JsonNumber.int64?, if_pos signed, ofNumber, ← narrow]
      · obtain ⟨number, found, rounded⟩ := JsonNumber.exists_finite?_integer lower upper
        have outside : ofInteger value = double (Double.ofInt value) := by
          rw [ofInteger, if_neg (by omega), if_neg signed]
        rw [readNumber, JsonNumber.int64?, if_neg signed, found, ofNumber, outside, rounded]

end Value

end DocumentStore
