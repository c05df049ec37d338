/-!
This file defines the operators of filters and their tags.
-/

namespace DocumentStore

/-- A combinator joins filters. -/
inductive Combinator where
  | and
  | or
  | not
  deriving DecidableEq

inductive Comparison where
  | eq
  | ne
  | lt
  | lte
  | gt
  | gte
  deriving DecidableEq

/-- This tells where a text has to occur. -/
inductive Placement where
  | anywhere
  | atStart
  | atEnd
  deriving DecidableEq

/-- A leaf operator tests one field against a value. -/
inductive LeafOperator where
  | compare (comparison : Comparison)
  | hasSome
  | like (placement : Placement)
  | urlized
  deriving DecidableEq

inductive Operator where
  | logical (combinator : Combinator)
  | leaf (operator : LeafOperator)
  deriving DecidableEq

def Combinator.tag : Combinator → String
  | and => "$and"
  | or => "$or"
  | not => "$not"

def Comparison.tag : Comparison → String
  | eq => "$eq"
  | ne => "$ne"
  | lt => "$lt"
  | lte => "$lte"
  | gt => "$gt"
  | gte => "$gte"

def Placement.tag : Placement → String
  | anywhere => "$contains"
  | atStart => "$startsWith"
  | atEnd => "$endsWith"

def LeafOperator.tag : LeafOperator → String
  | compare comparison => comparison.tag
  | hasSome => "$hasSome"
  | like placement => placement.tag
  | urlized => "$urlized"

namespace Operator

def tag : Operator → String
  | logical combinator => combinator.tag
  | leaf operator => operator.tag

def all : List Operator :=
  [logical .and, logical .or, logical .not, leaf (.compare .eq), leaf (.compare .ne),
    leaf (.compare .lt), leaf (.compare .lte), leaf (.compare .gt), leaf (.compare .gte),
    leaf .hasSome, leaf (.like .anywhere), leaf (.like .atStart), leaf (.like .atEnd),
    leaf .urlized]

/-- This is the operator with a tag, and tags are read exactly. -/
def ofTag? (tag : String) : Option Operator :=
  all.find? fun operator => operator.tag = tag

theorem ofTag?_tag (operator : Operator) : ofTag? operator.tag = some operator := by
  rcases operator with (_ | _ | _) | ((_ | _ | _ | _ | _ | _) | _ | (_ | _ | _) | _) <;> rfl

theorem tag_of_ofTag? {tag : String} {operator : Operator} (found : ofTag? tag = some operator) :
    operator.tag = tag := by
  simpa using List.find?_some found

end Operator

end DocumentStore
