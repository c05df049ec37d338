import DocumentStore.Error

/-!
This file says when an outcome reports the first fault that a reader meets.

The reader goes through a list of places and stops at the first bad one. So the places before it are
in order, and an outcome without a fault has no bad place at all.
-/

namespace DocumentStore.Outcome

variable {α β π : Type} {Bad : π → Prop} {error : π → Error}

/-- An outcome reports the error of the first bad place, and it succeeds when no place is bad. -/
inductive ReportsFirst (Bad : π → Prop) (error : π → Error) : Outcome α → List π → Prop
  | none {value : α} {places : List π} (good : ∀ place ∈ places, ¬ Bad place) :
      ReportsFirst Bad error (.ok value) places
  | first {before : List π} {place : π} (after : List π) (good : ∀ earlier ∈ before, ¬ Bad earlier)
      (bad : Bad place) : ReportsFirst Bad error (.error (error place)) (before ++ place :: after)

namespace ReportsFirst

variable {outcome : Outcome α} {places : List π}

/-- A value without places to look at has nothing to report. -/
theorem of_ok (value : α) : ReportsFirst Bad error (.ok value) [] :=
  .none (List.forall_mem_nil _)

/-- A single bad place is reported. -/
theorem of_error {place : π} (bad : Bad place) :
    ReportsFirst Bad error (.error (error place) : Outcome α) [place] :=
  .first [] (List.forall_mem_nil _) bad

/-- Places in order may stand before all others. -/
theorem prepend {front : List π} (frontGood : ∀ place ∈ front, ¬ Bad place)
    (reader : ReportsFirst Bad error outcome places) :
    ReportsFirst Bad error outcome (front ++ places) := by
  cases reader with
  | none good => exact .none (List.forall_mem_append.mpr ⟨frontGood, good⟩)
  | first after good bad =>
      rw [← List.append_assoc]
      exact .first after (List.forall_mem_append.mpr ⟨frontGood, good⟩) bad

/-- What follows a reader is only read when the reader has met no fault. -/
theorem bind {next : α → Outcome β} {later : List π}
    (reader : ReportsFirst Bad error outcome places)
    (follower : ∀ value, outcome = .ok value → ReportsFirst Bad error (next value) later) :
    ReportsFirst Bad error (outcome >>= next) (places ++ later) := by
  cases reader with
  | none good => exact (follower _ rfl).prepend good
  | first after good bad =>
      rw [List.append_assoc]
      exact .first (after ++ later) good bad

/-- A result may be changed without another look at the places. -/
theorem map {next : α → Outcome β} (reader : ReportsFirst Bad error outcome places)
    (passes : ∀ value, ∃ result, next value = .ok result) :
    ReportsFirst Bad error (outcome >>= next) places := by
  rw [← List.append_nil places]
  apply reader.bind
  intro value _
  obtain ⟨result, passed⟩ := passes value
  rw [passed]
  exact of_ok result

/-- The place where a list has its first bad member is unique. -/
theorem first_unique {before after earlier later : List π} {place other : π}
    (good : ∀ member ∈ before, ¬ Bad member) (bad : Bad place)
    (otherGood : ∀ member ∈ earlier, ¬ Bad member) (otherBad : Bad other)
    (same : before ++ place :: after = earlier ++ other :: later) : place = other := by
  -- If one bad place came later, the other one would be among the good members before it.
  rcases List.append_eq_append_iff.mp same with ⟨between, split, rest⟩ | ⟨between, split, rest⟩
  · cases between with
    | nil => exact (List.cons.inj rest).1
    | cons member between =>
        obtain ⟨rfl, -⟩ := List.cons.inj rest
        exact absurd bad (otherGood place (split ▸ List.mem_append_right _ List.mem_cons_self))
  · cases between with
    | nil => exact (List.cons.inj rest).1.symm
    | cons member between =>
        obtain ⟨rfl, -⟩ := List.cons.inj rest
        exact absurd otherBad (good other (split ▸ List.mem_append_right _ List.mem_cons_self))

/-- A reader fails exactly when one of its places is bad. -/
theorem exists_error_iff (reader : ReportsFirst Bad error outcome places) :
    (∃ fault, outcome = .error fault) ↔ ∃ place ∈ places, Bad place := by
  cases reader with
  | none good =>
      apply iff_of_false
      · rintro ⟨fault, failed⟩
        cases failed
      · rintro ⟨place, member, bad⟩
        exact good place member bad
  | first after good bad =>
      exact iff_of_true ⟨_, rfl⟩ ⟨_, List.mem_append_right _ List.mem_cons_self, bad⟩

/-- The reported fault is that of the first bad place. -/
theorem eq_error_iff (reader : ReportsFirst Bad error outcome places) (fault : Error) :
    outcome = .error fault ↔ ∃ before place after, places = before ++ place :: after ∧
      (∀ earlier ∈ before, ¬ Bad earlier) ∧ Bad place ∧ fault = error place := by
  cases reader with
  | none good =>
      apply iff_of_false nofun
      rintro ⟨before, place, after, rfl, -, bad, -⟩
      exact good place (List.mem_append_right _ List.mem_cons_self) bad
  | first after good bad =>
      constructor
      · rintro ⟨⟩
        exact ⟨_, _, after, rfl, good, bad, rfl⟩
      · rintro ⟨earlier, other, later, same, otherGood, otherBad, rfl⟩
        rw [first_unique good bad otherGood otherBad same]

end ReportsFirst

end DocumentStore.Outcome
