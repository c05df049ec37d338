import DocumentStore.Error
import DocumentStore.Pattern
import DocumentStore.Text.Case.Lower
import DocumentStore.Value.Basic

/-!
This file tests the patterns of predicates, and it keeps every pattern that it has compiled.

An engine compiles the sources of patterns. The pattern that a cache keeps under a source is always
the one that the source compiles to.
-/

namespace DocumentStore

/-- An engine compiles the source of a pattern, unless it refuses the source with an error. -/
structure PatternEngine (Compiled : Type) where
  compile : String → Outcome Compiled
  occursIn : Compiled → List Char → Bool

namespace PatternEngine

variable {Compiled : Type} (engine : PatternEngine Compiled)

/-- Every pattern is the one that its source compiles to. -/
def Sound (patterns : Fields Compiled) : Prop :=
  ∀ source pattern, patterns.get? source = some pattern → engine.compile source = .ok pattern

/-- A cache holds patterns that were compiled before, each under its source. -/
structure Cache where
  patterns : Fields Compiled
  sound : engine.Sound patterns

namespace Cache

variable {engine}

def empty : engine.Cache :=
  ⟨[], nofun⟩

def add (cache : engine.Cache) {source : String} {pattern : Compiled}
    (compiled : engine.compile source = .ok pattern) : engine.Cache where
  patterns := cache.patterns.insert source pattern
  sound := by
    intro name found known
    rw [Fields.get?_insert] at known
    split at known
    · next same => rw [← same, compiled, Option.some.inj known]
    · exact cache.sound name found known

end Cache

/-- A refused source is not kept. -/
def learn (source : String) : Action engine.Cache Compiled := fun cache =>
  match compiled : engine.compile source with
  | .ok pattern => (.ok pattern, cache.add compiled)
  | .error error => (.error error, cache)

/-- A source is only compiled when it is not in the cache. -/
def lookup (source : String) : Action engine.Cache Compiled := do
  match (← get).patterns.get? source with
  | some pattern => return pattern
  | none => engine.learn source

/-- A pattern is only compiled when it meets a text. -/
def holds (stored : Option Value) (source : String) : Action engine.Cache Bool :=
  match stored with
  | some (.string stored) => do
    return engine.occursIn (← engine.lookup source) (lowerCase stored.toList)
  | _ => return false

/-- This engine reads rows of letters and classes, and it refuses all other sources. -/
def rows : PatternEngine Pattern where
  compile source :=
    match Pattern.ofText? source.toList with
    | some pattern => .ok pattern
    | none => .error (.badRequest .pattern)
  occursIn := Pattern.occursIn

end PatternEngine

abbrev PatternCache :=
  PatternEngine.rows.Cache

end DocumentStore
