import DocumentStore.Filter.Basic
import DocumentStore.Pattern
import DocumentStore.Predicate.Basic
import DocumentStore.Text.Case.Lower

/-!
This file compiles filters into predicates.

A filter without an operator holds always. Empty joins, lists and texts have no constraint and are
dropped from the joins around them.
-/

namespace DocumentStore

/-- A scalar has a text, and a value without content has the empty text. -/
def Value.scalarText? : Value → Option String
  | null => some ""
  | undefined => some ""
  | string text => some text
  | bool value => some (toString value)
  | int32 value => some (toString value.toInt)
  | int64 value => some (toString value.toInt)
  | double value => some value.text
  | _ => none

namespace Filter

def compileComparison (comparison : Comparison) (field : FieldName) (value : Value) : Predicate :=
  match comparison, value.isAbsent with
  | .eq, true => .isNull field
  | .ne, true => .not (.isNull field)
  | _, _ => .compare field comparison value.decodeDate

/-- A value that is not a list stands for a list of one. -/
def listedValues : Value → List Value
  | .null => []
  | .array values => values.map Value.decodeDate
  | value => [value.decodeDate]

def compileOneOf (field : FieldName) (value : Value) : Predicate :=
  match listedValues value with
  | [] => .empty
  | values => .oneOf field values

def compileLike (placement : Placement) (field : FieldName) (value : Value) : Outcome Predicate :=
  match value.scalarText? with
  | none => .error (.badRequest (.scalarValue placement))
  | some text => .ok (if text.isEmpty then .empty else .like field placement text)

def tokenPattern : Value → Outcome (List Char)
  | .string token => .ok (Pattern.escape (lowerCase token.toList))
  | _ => .error (.badRequest .tokenList)

def tokens : Value → Outcome (List Value)
  | .null => .ok []
  | .array values => .ok values
  | _ => .error (.badRequest .tokenList)

/-- A hyphen or a blank separates two tokens. -/
def separator : List Char :=
  ['[', '-', ' ', ']']

def compileTokens (field : FieldName) (value : Value) : Outcome Predicate := do
  match ← (← tokens value).mapM tokenPattern with
  | [] => return .empty
  | patterns => return .pattern field (String.ofList (separator.intercalate patterns))

def compileLeaf (operator : LeafOperator) (field : FieldName) (value : Value) : Outcome Predicate :=
  match operator with
  | .compare comparison => .ok (compileComparison comparison field value)
  | .hasSome => .ok (compileOneOf field value)
  | .like placement => compileLike placement field value
  | .urlized => compileTokens field value

mutual

def compile : Filter → Outcome Predicate
  | unconstrained => .ok .always
  | combine .and children => do return Predicate.join .and (← compileList children)
  | combine .or children => do return Predicate.join .or (← compileList children)
  | combine .not [child] => do return (← compile child).negate
  | combine .not _ => .error (.badRequest .negationChildren)
  | leaf operator field value => compileLeaf operator field value

/-- Children without constraint are dropped, and their faults are not. -/
def compileList : List Filter → Outcome (List Predicate)
  | [] => .ok []
  | child :: rest => do
    let predicate ← compile child
    let predicates ← compileList rest
    return if predicate.isEmpty then predicates else predicate :: predicates

end

/-- This compiles a filter in its wire form, and an absent filter holds always. -/
def compileWire (wire : Option Json) : Outcome Predicate :=
  match wire with
  | some json => do compile (← ofJson json)
  | none => .ok .always

end Filter

end DocumentStore
