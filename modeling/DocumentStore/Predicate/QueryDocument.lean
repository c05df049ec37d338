import DocumentStore.Pattern
import DocumentStore.Predicate.Basic

/-!
This file writes predicates as MongoDB query documents.

Text of a caller only stands where the query expects an operand.
-/

namespace DocumentStore

/-- This matches a text that holds the search text, without regard to case. -/
def Placement.searchPattern (placement : Placement) (text : List Char) : List Char :=
  match placement with
  | anywhere => Pattern.escape text
  | atStart => '^' :: Pattern.escape text
  | atEnd => Pattern.escape text ++ ['$']

namespace Predicate

def patternCondition (source : List Char) : Value :=
  .document [("$regex", .string (String.ofList source)), ("$options", .string "i")]

mutual

/-- A negation is written as a joint denial, which may stand at the top of a query. -/
def queryDocument : Predicate → Fields Value
  | empty => []
  | always => []
  | and children => [("$and", .array (queryDocuments children))]
  | or children => [("$or", .array (queryDocuments children))]
  | not child => [("$nor", .array [.document (queryDocument child)])]
  | isNull field => [(field.text, .null)]
  | compare field comparison value => [(field.text, .document [(comparison.tag, value)])]
  | oneOf field values => [(field.text, .document [("$in", .array values)])]
  | like field placement text =>
    [(field.text, patternCondition (placement.searchPattern text.toList))]
  | pattern field source => [(field.text, patternCondition source.toList)]

def queryDocuments : List Predicate → List Value
  | [] => []
  | child :: rest => .document (queryDocument child) :: queryDocuments rest

end

end Predicate

end DocumentStore
