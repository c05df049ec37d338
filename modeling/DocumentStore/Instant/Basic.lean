import DocumentStore.Instant.Calendar

/-!
This file defines instants as counts of milliseconds.
-/

namespace DocumentStore

/-- An instant counts the milliseconds since the start of 1970 in universal time. -/
structure Instant where
  milliseconds : Int64
  deriving DecidableEq

namespace Instant

def ofInt (milliseconds : Int) : Instant :=
  ⟨Int64.ofInt milliseconds⟩

def millisecondsPerDay : Nat :=
  86400000

def dayNumber (instant : Instant) : Int :=
  instant.milliseconds.toInt / millisecondsPerDay

/-- This is the part of the day that has passed. -/
def inDay (instant : Instant) : Nat :=
  (instant.milliseconds.toInt % millisecondsPerDay).toNat

def date (instant : Instant) : CalendarDate :=
  .ofDayNumber instant.dayNumber

def hour (instant : Instant) : Nat :=
  instant.inDay / 3600000

def minute (instant : Instant) : Nat :=
  instant.inDay / 60000 % 60

def second (instant : Instant) : Nat :=
  instant.inDay / 1000 % 60

def millisecond (instant : Instant) : Nat :=
  instant.inDay % 1000

end Instant

end DocumentStore
