import CommonExpr.Plan.Evaluation
import CommonExpr.Plan.Planner
import CommonExpr.Proofs.Protobuf.Storing
import CommonExpr.Proofs.Protobuf.WellKnown

/-!
Unset message fields.

An unset field of a message type is read as a null that has the empty message for its zero,
one that is set to the empty message is read as this message.  Main statement: a selection
from either comes to the same; a presence test does just if the name is declared, since on
the null it is false even of names that the message would report.
-/

namespace CommonExpr

open Protobuf

/-! The two readings of a field -/

namespace Protobuf

/-- A message whose type has no meaning of its own is read as itself. -/
theorem Message.toValue_plain {m : Message} (hplain : Ty.ofWellKnown? m.name = none)
    (schema : Schema) (id : Int) : m.toValue schema id = .ok (.object schema m) := by
  have hwrapped : m.wrapped? = none := by
    cases hkind : wrapperKind? m.name with
    | none => simp [wrapped?, hkind]
    | some kind => cases hplain.symm.trans (ofWellKnown?_of_wrapperKind? hkind)
  obtain ⟨hany, htimestamp, hduration, hvalue, hstruct, hlist⟩ := ne_special_of_plain hplain
  rw [toValue, read, if_neg hany, if_neg htimestamp, if_neg hduration, if_neg hvalue,
    if_neg hstruct, if_neg hlist, hwrapped]

theorem zeroValue_plain {type : MessageType} (hplain : Ty.ofWellKnown? type.name = none)
    (schema : Schema) (id : Int) (own : Schema) :
    zeroValue schema id own type = .ok (.object schema (.empty own type)) := by
  obtain ⟨hany, htimestamp, hduration, hvalue, -⟩ := ne_special_of_plain hplain
  rw [zeroValue, if_neg htimestamp, if_neg hduration, if_neg (not_or.mpr ⟨hvalue, hany⟩)]
  exact Message.toValue_plain (m := .empty own type) hplain schema id

variable {m : Message} {field : Field} {name : String}

/-- The message that an unset field of a message type stands for. -/
def Message.emptyField (m : Message) (name : String) : Message :=
  .empty m.schema (m.schema.messageType name)

/-- The message with a field set to the empty message of its type. -/
def Message.setEmpty (m : Message) (field : Field) (name : String) : Message :=
  m.set field (.message (m.emptyField name))

theorem Message.fieldValue_unset (hshape : field.shape = .singular)
    (hkind : field.kind = .message name)
    (hplain : Ty.ofWellKnown? (m.schema.messageType name).name = none)
    (hunset : m.has field = false) (schema : Schema) (id : Int) :
    m.fieldValue schema id field =
      .ok (.typedNull name (.object schema (m.emptyField name))) := by
  rw [fieldValue, hshape, hkind]
  simp only [hunset, zeroValue_plain hplain]
  rfl

theorem Message.fieldValue_setEmpty (hshape : field.shape = .singular)
    (hplain : Ty.ofWellKnown? (m.schema.messageType name).name = none)
    (schema : Schema) (id : Int) :
    (m.setEmpty field name).fieldValue schema id field =
      .ok (.object schema (m.emptyField name)) := by
  have hstored := stored?_set_self m field (.message (m.emptyField name))
  have hread := fieldValue_single hshape hstored (fun _ _ => rfl) schema id
  exact hread.trans (Message.toValue_plain (m := m.emptyField name) hplain schema id)

end Protobuf

/-! Access to what is read -/

namespace Value

/-- The field of a field. -/
def subfield (v : Value) (id : Int) (name : String) (id' : Int) (name' : String) :
    Outcome Value := v.field id name >>= fun part => part.field id' name'

/-- Whether the field of a field is set. -/
def hasSubfield (v : Value) (id : Int) (name : String) (id' : Int) (name' : String) :
    Outcome Bool := v.field id name >>= fun part => part.isSet id' name'

theorem field_object {m : Message} {name : String} {field : Field}
    (hfield : m.type.field? name = some field) (schema : Schema) (id : Int) :
    (Value.object schema m).field id name = m.fieldValue schema id field := by
  rw [Value.field, byName?, Message.fieldValue?, hfield]
  rfl

theorem field_undeclared {m : Message} {name : String} (hfield : m.type.field? name = none)
    (schema : Schema) (id : Int) :
    (Value.object schema m).field id name = fail id (.fieldNotFound name (some m.name)) := by
  rw [Value.field, byName?, Message.fieldValue?, hfield]
  rfl

/-- The null of an unset field has the fields of its zero. -/
theorem field_typedNull (type : String) (schema : Schema) (m : Message) (id : Int)
    (name : String) :
    (Value.typedNull type (.object schema m)).field id name =
      (Value.object schema m).field id name := by
  rw [Value.field, Value.field, byName?]
  rfl

theorem isSet_empty (schema own : Schema) (type : MessageType) (id : Int) (name : String) :
    (Value.object schema (.empty own type)).isSet id name =
      if (type.field? name).isSome then .ok false
      else fail id (.fieldNotFound name (some type.name)) := by
  rw [Value.isSet, Message.isSet, Message.type_empty]
  cases type.field? name <;> rfl

/-- A field of an unset message field is read as that of the empty message, and reported if it
is not declared; whether it is set comes to the same just if it is declared. -/
theorem unset_field_like_empty {m : Message} {field : Field} {name type : String}
    (hfield : m.type.field? name = some field) (hshape : field.shape = .singular)
    (hkind : field.kind = .message type)
    (hplain : Ty.ofWellKnown? (m.schema.messageType type).name = none)
    (hunset : m.has field = false) (schema : Schema) (id id' : Int) (name' : String) :
    (Value.object schema m).subfield id name id' name' =
        (Value.object schema (m.setEmpty field type)).subfield id name id' name' ∧
      ((m.schema.messageType type).field? name' = none →
        (Value.object schema m).subfield id name id' name' =
          fail id' (.fieldNotFound name' (some (m.schema.messageType type).name))) ∧
      ((Value.object schema m).hasSubfield id name id' name' =
          (Value.object schema (m.setEmpty field type)).hasSubfield id name id' name' ↔
        ((m.schema.messageType type).field? name').isSome = true) := by
  have hnull : (Value.object schema m).field id name =
      .ok (.typedNull type (.object schema (m.emptyField type))) := by
    rw [field_object hfield, Message.fieldValue_unset hshape hkind hplain hunset]
  have hempty : (Value.object schema (m.setEmpty field type)).field id name =
      .ok (.object schema (m.emptyField type)) := by
    have hfield' : (m.setEmpty field type).type.field? name = some field := hfield
    rw [field_object hfield', Message.fieldValue_setEmpty hshape hplain]
  have hselect : (Value.object schema m).subfield id name id' name' =
      (Value.object schema (m.emptyField type)).field id' name' := by
    rw [subfield, hnull]
    exact field_typedNull type schema (m.emptyField type) id' name'
  refine ⟨?_, ?_, ?_⟩
  · rw [hselect, subfield, hempty]
    rfl
  · intro hundeclared
    rw [hselect]
    exact field_undeclared (m := m.emptyField type) hundeclared schema id'
  · have hfalse : (Value.object schema m).hasSubfield id name id' name' = .ok false := by
      rw [hasSubfield, hnull]
      rfl
    have htest : (Value.object schema (m.setEmpty field type)).hasSubfield id name id' name' =
        if ((m.schema.messageType type).field? name').isSome then .ok false
        else fail id' (.fieldNotFound name' (some (m.schema.messageType type).name)) := by
      rw [hasSubfield, hempty]
      exact isSet_empty schema m.schema (m.schema.messageType type) id' name'
    rw [hfalse, htest]
    split
    · next hdeclared => exact iff_of_true rfl hdeclared
    · next hundeclared =>
        refine iff_of_false ?_ hundeclared
        intro heq
        cases heq

end Value

namespace UnsetWitness

def innerType : MessageType := ⟨"test.Inner", [.one 1 "n" .int64]⟩

def outerType : MessageType :=
  ⟨"test.Outer",
    [.choice "part" 1 "text" .string, .choice "part" 2 "inner" (.message "test.Inner")]⟩

def schema : Schema := ⟨[{ name := "test.proto", messages := [innerType, outerType] }]⟩

def inner : Field := .choice "part" 2 "inner" (.message "test.Inner")

/-- A message in which another member of the oneof is set. -/
def unset : Message := .mk schema outerType [(1, .string "a")] []

/-- The same with an empty message in place of the other member. -/
def emptied : Message := unset.setEmpty inner "test.Inner"

/-- The unset field is read like the empty message, and its declared field is tested like it. -/
theorem unset_inner :
    unset.type.field? "inner" = some inner ∧ unset.has inner = false ∧
      Ty.ofWellKnown? (unset.schema.messageType "test.Inner").name = none ∧
      (Value.object schema unset).subfield 2 "inner" 3 "n" =
        (Value.object schema emptied).subfield 2 "inner" 3 "n" ∧
      (Value.object schema unset).subfield 2 "inner" 3 "bogus" =
        fail 3 (.fieldNotFound "bogus" (some "test.Inner")) ∧
      (Value.object schema unset).hasSubfield 2 "inner" 3 "n" =
        (Value.object schema emptied).hasSubfield 2 "inner" 3 "n" := by
  have hfield : unset.type.field? "inner" = some inner := rfl
  have hplain : Ty.ofWellKnown? (unset.schema.messageType "test.Inner").name = none := rfl
  obtain ⟨hselect, -, htest⟩ :=
    Value.unset_field_like_empty hfield rfl rfl hplain rfl schema 2 3 "n"
  obtain ⟨-, hundeclared, -⟩ :=
    Value.unset_field_like_empty hfield rfl rfl hplain rfl schema 2 3 "bogus"
  exact ⟨hfield, rfl, hplain, hselect, hundeclared rfl, htest.mpr rfl⟩

def planner : Planner := ⟨⟨[]⟩, .empty, {}⟩

/-- `has(x.inner.bogus)` -/
def presence : Expr := .has 3 (.select 2 (.ident 1 "x") "inner") "bogus"

def presencePlan : Plan :=
  .has 3 ((planner.identifier 1 "x").add (.field 2 "inner")) "bogus"

/-- A message under the name `x`. -/
def vars (m : Message) : Activation := .ofBindings ⟨[("x", .ok (.object schema m))]⟩

/-- A name that is not declared counts as unset in the unset field, and is reported in the
empty message. -/
theorem undeclared_name_unset :
    planner.plan presence = .ok presencePlan ∧ unset.has inner = false ∧
      presencePlan.eval (vars unset) = .ok (.bool false) ∧
      presencePlan.eval (vars emptied) = fail 3 (.fieldNotFound "bogus" (some "test.Inner")) :=
  ⟨rfl, rfl, rfl, rfl⟩

end UnsetWitness

end CommonExpr
