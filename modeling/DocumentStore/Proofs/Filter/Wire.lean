import DocumentStore.Predicate.Compile
import DocumentStore.Proofs.Filter.Grammar
import DocumentStore.Proofs.Value.Storable

/-!
This file writes filters in JSON. What is written is read as the filter that was meant, and every
filter that is read only holds values that a service can store.
-/

namespace DocumentStore

/-- This is a filter in JSON that tests a field against a value. -/
def Json.leaf (operator : LeafOperator) (key : String) (value : Json) : Json :=
  .object [("operator", .string operator.tag), ("fieldName", .string key), ("value", value)]

/-- This is a filter in JSON that joins others. -/
def Json.combination (combinator : Combinator) (filters : List Json) : Json :=
  .object [("operator", .string combinator.tag), ("value", .array filters)]

namespace Filter

/-- A filter is storable when its leaves hold values that a service can store. -/
inductive Storable : Filter → Prop
  | unconstrained : Storable .unconstrained
  | combine (combinator : Combinator) {children : List Filter}
      (all : ∀ child ∈ children, Storable child) : Storable (.combine combinator children)
  | leaf (operator : LeafOperator) (field : FieldName) {value : Value}
      (storable : value.Storable) : Storable (.leaf operator field value)

/-- Every operand that is read can be stored. -/
theorem inherited_storable : Inherited Storable :=
  ⟨.unconstrained, fun operator field _ => .leaf operator field (Value.storable_ofJson _),
    fun _ => .combine _⟩

/-- Filters from the wire only compare with values that can be stored. -/
theorem storable_ofJson (json : Json) {filter : Filter} (read : ofJson json = .ok filter) :
    filter.Storable :=
  inherited_storable.of_ofJson read

/-- A written leaf is read back. -/
theorem ofJson_leaf (operator : LeafOperator) (field : FieldName) (value : Json) :
    ofJson (.leaf operator field.text value) = .ok (.leaf operator field (Value.ofJson value)) := by
  rw [ofJson_eq_ok_iff]
  exact .leaf rfl rfl

/-- A written leaf is compiled on its own. -/
theorem compileWire_leaf (operator : LeafOperator) (field : FieldName) (value : Json) :
    compileWire (some (.leaf operator field.text value)) =
      compileLeaf operator field (Value.ofJson value) := by
  rw [compileWire, ofJson_leaf]
  rfl

/-- A written combination is read back with its children. -/
theorem ofJson_combination {combinator : Combinator} (join : combinator ≠ .not)
    {filters : List Json} {children : List Filter} (read : ofJsonList filters = .ok children) :
    ofJson (.combination combinator filters) = .ok (.combine combinator children) := by
  rw [ofJson_eq_ok_iff]
  have described := (ofJsonList_eq_ok_iff filters children).mp read
  exact .combine rfl (.list combinator described) fun negation => absurd negation join

end Filter

end DocumentStore
