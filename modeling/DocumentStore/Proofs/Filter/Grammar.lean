import DocumentStore.Filter.Basic
import DocumentStore.Proofs.Action

/-!
This file gives the grammar of filters in JSON, together with the trees that they describe. The
reader accepts exactly the values of the grammar, and gives the tree that a value describes.
-/

namespace DocumentStore

/-- The name of a field with a text is the field itself. -/
theorem FieldName.ofText_eq_ok_iff {name : String} {field : FieldName} :
    FieldName.ofText name = .ok field ↔ field.text = name := by
  unfold FieldName.ofText
  split
  · constructor
    · rintro ⟨⟩
      rfl
    · rintro rfl
      rfl
  · next refused =>
      apply iff_of_false nofun
      rintro rfl
      exact refused field.allowed

/-- This is the value that a leaf compares with, and an absent one is null. -/
def Json.operand (fields : Fields Json) : Value :=
  Value.ofJson ((fields.get? "value").getD .null)

mutual

/-- A JSON value describes a filter when it has one of the forms below. -/
inductive Json.Describes : Json → Filter → Prop
  | null : Describes .null .unconstrained
  | noOperator {fields : Fields Json}
      (absent : fields.get? "operator" = none ∨ fields.get? "operator" = some .null) :
      Describes (.object fields) .unconstrained
  | leaf {fields : Fields Json} {operator : LeafOperator} {field : FieldName}
      (tagged : fields.get? "operator" = some (.string operator.tag))
      (named : fields.get? "fieldName" = some (.string field.text)) :
      Describes (.object fields) (.leaf operator field (Json.operand fields))
  | combine {fields : Fields Json} {combinator : Combinator} {children : List Filter}
      (tagged : fields.get? "operator" = some (.string combinator.tag))
      (each : DescribesChildren combinator (fields.get? "value") children)
      (single : combinator = .not → children.length = 1) :
      Describes (.object fields) (.combine combinator children)

/-- The children stand in a list, which may be left out. A negation also takes one lone child. -/
inductive Json.DescribesChildren : Combinator → Option Json → List Filter → Prop
  | absent (combinator : Combinator) : DescribesChildren combinator none []
  | null (combinator : Combinator) : DescribesChildren combinator (some .null) []
  | list (combinator : Combinator) {values : List Json} {children : List Filter}
      (each : DescribesList values children) :
      DescribesChildren combinator (some (.array values)) children
  | lone {fields : Fields Json} {child : Filter} (inner : Describes (.object fields) child) :
      DescribesChildren .not (some (.object fields)) [child]

/-- Every value of a list describes the filter in its place. -/
inductive Json.DescribesList : List Json → List Filter → Prop
  | nil : DescribesList [] []
  | cons {value : Json} {child : Filter} {rest : List Json} {children : List Filter}
      (first : Describes value child) (others : DescribesList rest children) :
      DescribesList (value :: rest) (child :: children)

end

namespace Filter

open Json

/-- An object without an operator, or with null for it, has no constraint. -/
theorem operatorOfFields_eq_none_iff {fields : Fields Json} :
    operatorOfFields fields = .ok none ↔
      fields.get? "operator" = none ∨ fields.get? "operator" = some .null := by
  unfold operatorOfFields
  match fields.get? "operator" with
  | none | some .null => simp
  | some (.string tag) => cases known : Operator.ofTag? tag <;> simp [known]
  | some (.bool _) | some (.number _) | some (.array _) | some (.object _) => simp

/-- An operator is named by its tag. -/
theorem operatorOfFields_eq_some_iff {fields : Fields Json} {operator : Operator} :
    operatorOfFields fields = .ok (some operator) ↔
      fields.get? "operator" = some (.string operator.tag) := by
  unfold operatorOfFields
  match fields.get? "operator" with
  | none | some .null => simp
  | some (.string tag) =>
      simp only [Option.some.injEq, Json.string.injEq]
      constructor
      · cases known : Operator.ofTag? tag with
        | none => exact nofun
        | some found =>
            rintro ⟨⟩
            exact (Operator.tag_of_ofTag? known).symm
      · rintro rfl
        rw [Operator.ofTag?_tag]
  | some (.bool _) | some (.number _) | some (.array _) | some (.object _) => simp

/-- A leaf needs a field name and nothing else. -/
theorem leafOfFields_eq_ok_iff {operator : LeafOperator} {fields : Fields Json}
    {filter : Filter} :
    leafOfFields operator fields = .ok filter ↔
      ∃ field : FieldName, fields.get? "fieldName" = some (.string field.text) ∧
        filter = .leaf operator field (operand fields) := by
  have sameOperand : ((fields.get? "value").map Value.ofJson).getD .null = operand fields := by
    unfold operand
    cases fields.get? "value" <;> rfl
  unfold leafOfFields
  rw [sameOperand]
  match fields.get? "fieldName" with
  | some (.string name) =>
      simp only [Outcome.bind_eq_ok, FieldName.ofText_eq_ok_iff, Option.some.injEq,
        Json.string.injEq]
      apply exists_congr
      intro field
      rw [eq_comm (a := name)]
      apply and_congr_right
      intro _
      exact (Except.ok.injEq _ _).to_iff.trans eq_comm
  | none | some .null | some (.bool _) | some (.number _) | some (.array _) | some (.object _) =>
      simp [throw, throwThe, MonadExceptOf.throw]

/-- Only a negation counts its children. -/
theorem combined_eq_ok_iff {combinator : Combinator} {children : List Filter} {filter : Filter} :
    combined combinator children = .ok filter ↔
      (combinator = .not → children.length = 1) ∧ filter = .combine combinator children := by
  unfold combined
  split
  · next wrong => simp [wrong]
  · next right =>
      have single : combinator = .not → children.length = 1 := fun negation =>
        Decidable.byContradiction fun several => right ⟨negation, several⟩
      rw [Except.ok.injEq, and_iff_right single]
      exact eq_comm

/-- A node that is read is of one of three kinds. -/
theorem ofFields_eq_ok_iff {fields : Fields Json} {children : Combinator → Outcome (List Filter)}
    {filter : Filter} :
    ofFields fields children = .ok filter ↔
      ((fields.get? "operator" = none ∨ fields.get? "operator" = some .null) ∧
          filter = .unconstrained) ∨
        (∃ (operator : LeafOperator) (field : FieldName),
          fields.get? "operator" = some (.string operator.tag) ∧
            fields.get? "fieldName" = some (.string field.text) ∧
              filter = .leaf operator field (operand fields)) ∨
          ∃ (combinator : Combinator) (list : List Filter),
            fields.get? "operator" = some (.string combinator.tag) ∧
              children combinator = .ok list ∧ (combinator = .not → list.length = 1) ∧
                filter = .combine combinator list := by
  unfold ofFields
  rw [Outcome.bind_eq_ok]
  -- Each form of the operator has its own inversion lemma, and both directions use it.
  constructor
  · rintro ⟨operator, given, read⟩
    match operator with
    | none =>
        cases read
        exact .inl ⟨operatorOfFields_eq_none_iff.mp given, rfl⟩
    | some (.leaf operator) =>
        obtain ⟨field, named, built⟩ := leafOfFields_eq_ok_iff.mp read
        exact .inr (.inl ⟨operator, field, operatorOfFields_eq_some_iff.mp given, named, built⟩)
    | some (.logical combinator) =>
        obtain ⟨list, listed, joined⟩ := Outcome.bind_eq_ok.mp read
        exact .inr (.inr ⟨combinator, list, operatorOfFields_eq_some_iff.mp given, listed,
          combined_eq_ok_iff.mp joined⟩)
  · rintro (⟨absent, rfl⟩ | ⟨operator, field, tagged, named, built⟩ |
      ⟨combinator, list, tagged, listed, joined⟩)
    · exact ⟨none, operatorOfFields_eq_none_iff.mpr absent, rfl⟩
    · exact ⟨some (.leaf operator), operatorOfFields_eq_some_iff.mpr tagged,
        leafOfFields_eq_ok_iff.mpr ⟨field, named, built⟩⟩
    · exact ⟨some (.logical combinator), operatorOfFields_eq_some_iff.mpr tagged,
        Outcome.bind_eq_ok.mpr ⟨list, listed, combined_eq_ok_iff.mpr joined⟩⟩

/-- An object is read as a filter when its children are read as the filters that they describe. -/
theorem ofFields_eq_ok_iff_describes {fields : Fields Json}
    {children : Combinator → Outcome (List Filter)}
    (each : ∀ combinator list, children combinator = .ok list ↔
      DescribesChildren combinator (fields.get? "value") list) {filter : Filter} :
    ofFields fields children = .ok filter ↔ (Json.object fields).Describes filter := by
  rw [ofFields_eq_ok_iff]
  constructor
  · rintro (⟨absent, rfl⟩ | ⟨operator, field, tagged, named, rfl⟩ |
      ⟨combinator, list, tagged, listed, single, rfl⟩)
    · exact .noOperator absent
    · exact .leaf tagged named
    · exact .combine tagged ((each combinator list).mp listed) single
  · intro described
    cases described with
    | noOperator absent => exact .inl ⟨absent, rfl⟩
    | leaf tagged named => exact .inr (.inl ⟨_, _, tagged, named, rfl⟩)
    | combine tagged described single =>
        exact .inr (.inr ⟨_, _, tagged, (each _ _).mpr described, single, rfl⟩)

/-- A missing value describes no children. -/
theorem describesChildren_none_iff {combinator : Combinator} {list : List Filter} :
    DescribesChildren combinator none list ↔ list = [] := by
  constructor
  · intro described
    cases described
    rfl
  · rintro rfl
    exact .absent combinator

/-- Null describes no children. -/
theorem describesChildren_null_iff {combinator : Combinator} {list : List Filter} :
    DescribesChildren combinator (some .null) list ↔ list = [] := by
  constructor
  · intro described
    cases described
    rfl
  · rintro rfl
    exact .null combinator

/-- An array describes its children in order. -/
theorem describesChildren_array_iff {combinator : Combinator} {values : List Json}
    {list : List Filter} :
    DescribesChildren combinator (some (.array values)) list ↔ DescribesList values list :=
  ⟨fun | .list _ each => each, .list combinator⟩

/-- A lone object only describes the child of a negation. -/
theorem describesChildren_object_iff {combinator : Combinator} {fields : Fields Json}
    {list : List Filter} :
    DescribesChildren combinator (some (.object fields)) list ↔
      combinator = .not ∧ ∃ child, (Json.object fields).Describes child ∧ list = [child] := by
  constructor
  · intro described
    cases described with
    | lone inner => exact ⟨rfl, _, inner, rfl⟩
  · rintro ⟨rfl, child, inner, rfl⟩
    exact .lone inner

/-- Every element of an array describes a child. -/
theorem describesList_cons_iff {value : Json} {rest : List Json} {list : List Filter} :
    DescribesList (value :: rest) list ↔
      ∃ child, value.Describes child ∧ ∃ children, DescribesList rest children ∧
        list = child :: children := by
  constructor
  · intro described
    cases described with
    | cons first others => exact ⟨_, first, _, others, rfl⟩
  · rintro ⟨child, first, children, others, rfl⟩
    exact .cons first others

mutual

/-- A value is read as exactly the filter that it describes. -/
theorem ofJson_eq_ok_iff : (json : Json) → (filter : Filter) →
    (ofJson json = .ok filter ↔ json.Describes filter)
  | .null, filter => by
      constructor
      · rintro ⟨⟩
        exact .null
      · rintro ⟨⟩
        rfl
  | .object fields, filter =>
      ofFields_eq_ok_iff_describes fun combinator list =>
        childrenOfFields_eq_ok_iff combinator fields list
  | .bool _, _ | .number _, _ | .string _, _ => ⟨nofun, nofun⟩
  | .array _, _ => ⟨nofun, nofun⟩

/-- The children are read from the value of the object. -/
theorem childrenOfFields_eq_ok_iff (combinator : Combinator) : (fields : List (String × Json)) →
    (list : List Filter) → (childrenOfFields combinator fields = .ok list ↔
      DescribesChildren combinator (Fields.get? fields "value") list)
  | [], list => by
      rw [childrenOfFields, Fields.get?, describesChildren_none_iff, Except.ok.injEq]
      exact eq_comm
  | (key, value) :: rest, list => by
      rw [childrenOfFields, Fields.get?]
      split
      · exact childrenOfValue_eq_ok_iff combinator value list
      · exact childrenOfFields_eq_ok_iff combinator rest list

/-- Exactly the described children are read from a value. -/
theorem childrenOfValue_eq_ok_iff (combinator : Combinator) : (json : Json) →
    (list : List Filter) → (childrenOfValue combinator json = .ok list ↔
      DescribesChildren combinator (some json) list)
  | .null, list => by
      rw [childrenOfValue, describesChildren_null_iff, Except.ok.injEq]
      exact eq_comm
  | .array values, list => by
      rw [childrenOfValue, describesChildren_array_iff]
      exact ofJsonList_eq_ok_iff values list
  | .object fields, list => by
      rw [childrenOfValue, describesChildren_object_iff]
      split
      · next negation =>
          rw [Outcome.bind_eq_ok, and_iff_right negation]
          apply exists_congr
          intro child
          apply and_congr
          · exact ofFields_eq_ok_iff_describes fun combinator list =>
              childrenOfFields_eq_ok_iff combinator fields list
          · exact (Except.ok.injEq _ _).to_iff.trans eq_comm
      · next join => simp [join]
  | .bool _, _ | .number _, _ => ⟨nofun, nofun⟩
  | .string _, _ => ⟨nofun, nofun⟩

/-- Exactly the described children are read from an array. -/
theorem ofJsonList_eq_ok_iff : (values : List Json) → (list : List Filter) →
    (ofJsonList values = .ok list ↔ DescribesList values list)
  | [], list => by
      constructor
      · rintro ⟨⟩
        exact .nil
      · rintro ⟨⟩
        rfl
  | value :: rest, list => by
      rw [ofJsonList, Outcome.bind_eq_ok, describesList_cons_iff]
      apply exists_congr
      intro child
      apply and_congr (ofJson_eq_ok_iff value child)
      rw [Outcome.bind_eq_ok]
      apply exists_congr
      intro children
      apply and_congr (ofJsonList_eq_ok_iff rest children)
      exact (Except.ok.injEq _ _).to_iff.trans eq_comm

end

/-- An inherited property passes from the children of a node to the node. -/
structure Inherited (motive : Filter → Prop) : Prop where
  unconstrained : motive .unconstrained
  leaf (operator : LeafOperator) (field : FieldName) (fields : Fields Json) :
    motive (.leaf operator field (operand fields))
  combine {combinator : Combinator} {children : List Filter}
    (single : combinator = .not → children.length = 1)
    (each : ∀ child ∈ children, motive child) : motive (.combine combinator children)

mutual

theorem Inherited.of_describes {motive : Filter → Prop} (inherited : Inherited motive) :
    {json : Json} → {filter : Filter} → json.Describes filter → motive filter
  | _, _, .null => inherited.unconstrained
  | _, _, .noOperator _ => inherited.unconstrained
  | _, _, .leaf _ _ => inherited.leaf _ _ _
  | _, _, .combine _ each single =>
      inherited.combine single (inherited.of_describesChildren each)

theorem Inherited.of_describesChildren {motive : Filter → Prop} (inherited : Inherited motive) :
    {combinator : Combinator} → {json : Option Json} → {children : List Filter} →
      DescribesChildren combinator json children → ∀ child ∈ children, motive child
  | _, _, _, .absent _ => List.forall_mem_nil _
  | _, _, _, .null _ => List.forall_mem_nil _
  | _, _, _, .list _ each => inherited.of_describesList each
  | _, _, _, .lone inner => List.forall_mem_singleton.mpr (inherited.of_describes inner)

theorem Inherited.of_describesList {motive : Filter → Prop} (inherited : Inherited motive) :
    {values : List Json} → {children : List Filter} → DescribesList values children →
      ∀ child ∈ children, motive child
  | _, _, .nil => List.forall_mem_nil _
  | _, _, .cons first others => List.forall_mem_cons.mpr
      ⟨inherited.of_describes first, inherited.of_describesList others⟩

end

/-- Every filter that is read has the inherited properties. -/
theorem Inherited.of_ofJson {motive : Filter → Prop} (inherited : Inherited motive) {json : Json}
    {filter : Filter} (read : ofJson json = .ok filter) : motive filter :=
  inherited.of_describes ((ofJson_eq_ok_iff json filter).mp read)

/-- Every negation in the filter has exactly one child. -/
inductive SingleNegations : Filter → Prop
  | unconstrained : SingleNegations .unconstrained
  | leaf (operator : LeafOperator) (field : FieldName) (value : Value) :
      SingleNegations (.leaf operator field value)
  | combine {combinator : Combinator} {children : List Filter}
      (single : combinator = .not → children.length = 1)
      (each : ∀ child ∈ children, SingleNegations child) :
      SingleNegations (.combine combinator children)

/-- Every negation that is described has one child. -/
theorem inherited_singleNegations : Inherited SingleNegations :=
  ⟨.unconstrained, fun operator field _ => .leaf operator field _, .combine⟩

end Filter

end DocumentStore
