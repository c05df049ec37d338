import DocumentStore.Predicate.Basic
import DocumentStore.Predicate.Literal

/-!
This file writes predicates as relational text.
-/

namespace DocumentStore

def Comparison.sign : Comparison → List Char
  | eq => ['=']
  | ne => ['<', '>']
  | lt => ['<']
  | lte => ['<', '=']
  | gt => ['>']
  | gte => ['>', '=']

/-- A wildcard stands where other text may surround the search text. -/
def Placement.searchText (placement : Placement) (text : List Char) : List Char :=
  match placement with
  | anywhere => '%' :: Literal.escapeWildcards text ++ ['%']
  | atStart => Literal.escapeWildcards text ++ ['%']
  | atEnd => '%' :: Literal.escapeWildcards text

namespace Predicate

mutual

def render : Predicate → List Char
  | empty => []
  | always => "TRUE = TRUE".toList
  | and children => '(' :: renderList " AND ".toList children ++ [')']
  | or children => '(' :: renderList " OR ".toList children ++ [')']
  | not child => "NOT (".toList ++ render child ++ [')']
  | isNull field => field.text.toList ++ " IS NULL".toList
  | compare field comparison value =>
    field.text.toList ++ ' ' :: comparison.sign ++ ' ' :: Literal.ofValue value
  | oneOf field values => field.text.toList ++ " IN (".toList ++ Literal.ofList values ++ [')']
  | like field placement text =>
    field.text.toList ++ " LIKE ".toList ++ Literal.ofText (placement.searchText text.toList)
  | pattern field source =>
    "LOWER(".toList ++ field.text.toList ++ ") RLIKE ".toList ++ Literal.ofText source.toList

def renderList (separator : List Char) : List Predicate → List Char
  | [] => []
  | [child] => render child
  | child :: rest => render child ++ separator ++ renderList separator rest

end

/-- This is the text of a predicate. -/
def text (predicate : Predicate) : String :=
  String.ofList predicate.render

end Predicate

end DocumentStore
