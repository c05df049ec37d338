import DocumentStore.Evaluation.Comparand
import DocumentStore.Evaluation.Engine
import DocumentStore.Predicate.Basic

/-!
This file decides which items satisfy a predicate.

A join stops at the first child that decides it, and one cache of patterns serves all items.
-/

namespace DocumentStore

/-- A stored list equals a value when one of its elements does, unless the value is a list too. -/
def fieldEquals (stored : Option Value) (value : Value) : Bool :=
  match Comparand.ofField stored, value.comparand with
  | .array values, .array expected => Comparand.equal (.array values) (.array expected)
  | .array values, expected => values.any fun element => element.equal expected
  | actual, expected => actual.equal expected

namespace Comparison

/-- This tells which outcomes of a comparison satisfy an operator. -/
def admits : Comparison → Ordering → Bool
  | eq, ordering => ordering.isEq
  | ne, ordering => ordering.isNe
  | lt, ordering => ordering.isLT
  | lte, ordering => ordering.isLE
  | gt, ordering => ordering.isGT
  | gte, ordering => ordering.isGE

/-- A missing field has no order, and a null has. -/
def orders (comparison : Comparison) (stored : Option Value) (value : Value) : Bool :=
  match stored with
  | none => false
  | some stored => (stored.comparand.compare? value.comparand).any comparison.admits

def holds (comparison : Comparison) (stored : Option Value) (value : Value) : Bool :=
  match comparison with
  | eq => fieldEquals stored value
  | ne => !fieldEquals stored value
  | ordered => ordered.orders stored value

end Comparison

namespace Placement

/-- This asks whether a text holds the search text anywhere. -/
def occursIn (search : List Char) : List Char → Bool
  | [] => search.isEmpty
  | char :: text => search.isPrefixOf (char :: text) || occursIn search text

/-- This asks whether a text holds the search text in the right place. -/
def finds (placement : Placement) (search text : List Char) : Bool :=
  match placement with
  | anywhere => occursIn search text
  | atStart => search.isPrefixOf text
  | atEnd => search.isSuffixOf text

/-- Both texts are compared in lower case, and only a stored text can match. -/
def holds (placement : Placement) (stored : Option Value) (text : String) : Bool :=
  match stored with
  | some (.string stored) => placement.finds (lowerCase text.toList) (lowerCase stored.toList)
  | _ => false

end Placement

def isNullField : Option Value → Bool
  | none => true
  | some .null => true
  | _ => false

namespace Predicate

section

variable {m : Type → Type} [Monad m] (holds : Option Value → String → m Bool) (item : Item)

mutual

/-- This decides whether an item satisfies a predicate, when it is known how to test patterns. -/
def evaluateWith : Predicate → m Bool
  | empty => return true
  | always => return true
  | and children => evaluateAllWith children
  | or children => evaluateAnyWith children
  | not child => do return !(← evaluateWith child)
  | isNull field => return isNullField (item.get? field.text)
  | compare field comparison value => return comparison.holds (item.get? field.text) value
  | oneOf field values => return values.any fun value => fieldEquals (item.get? field.text) value
  | like field placement text => return placement.holds (item.get? field.text) text
  | pattern field source => holds (item.get? field.text) source

def evaluateAllWith : List Predicate → m Bool
  | [] => return true
  | child :: rest => do
    if ← evaluateWith child then evaluateAllWith rest else return false

def evaluateAnyWith : List Predicate → m Bool
  | [] => return false
  | child :: rest => do
    if ← evaluateWith child then return true else evaluateAnyWith rest

end

end

end Predicate

namespace PatternEngine

/-- This tests items one after another and ends at the first fault. -/
def matchingWith {m : Type → Type} [Monad m] (test : Item → m Bool) : List Item → m (List Item)
  | [] => return []
  | item :: rest => do
    let holds ← test item
    let found ← matchingWith test rest
    return if holds then item :: found else found

variable {Compiled : Type} (engine : PatternEngine Compiled)

/-- This decides whether an item satisfies a predicate, with the patterns of a cache. -/
def evaluate (item : Item) (predicate : Predicate) : Action engine.Cache Bool :=
  predicate.evaluateWith engine.holds item

variable (predicate : Predicate)

/-- One cache of patterns serves the whole scan. -/
def matching (items : List Item) : Action engine.Cache (List Item) :=
  matchingWith (fun item => engine.evaluate item predicate) items

/-- An unconstrained predicate takes all items without a test. -/
def find (items : List Item) : Outcome (List Item) :=
  if predicate.isUnconstrained then .ok items else (engine.matching predicate items .empty).1

end PatternEngine

/-- This decides whether an item satisfies a predicate. -/
def Predicate.evaluate (item : Item) (predicate : Predicate) : Action PatternCache Bool :=
  PatternEngine.rows.evaluate item predicate

end DocumentStore
