import DocTags.Record.Check
import DocTags.Record.State

/-!
# Records are restored from their states

Checking the state of a record gives the record back. Every field is there and has the form that its
check expects, and the kind of a type is among them: it is taken as it is, even where the settings
would say otherwise, so no environment matters, at any depth.
-/

namespace DocTags

namespace Checked

variable {α β : Type} {check : Json → Checked α} {encode : α → Json} {fields : Fields Json}
  {name : String}

/-- A check accepts what was written for a value as that value. -/
def Restores (check : Json → Checked α) (encode : α → Json) : Prop :=
  ∀ value, check (encode value) = accept value

theorem restores_string : Restores string .text := fun _ => rfl

theorem restores_flag : Restores flag .bool := fun _ => rfl

theorem restores_integer : Restores integer .int := fun _ => rfl

theorem restores_textOrNull : Restores (nullable string) .textOrNull := by
  intro value
  cases value <;> rfl

theorem Restores.orNull (restores : Restores check encode)
    (present : ∀ value, encode value ≠ .null) : Restores (nullable check) (.orNull encode) := by
  intro value
  cases value with
  | none => rfl
  | some value =>
    have accepted : nullable check (encode value) = (check (encode value)).map some := by
      unfold nullable
      split
      · rename_i null
        exact absurd null (present value)
      · rfl
    rw [Json.orNull, accepted, restores value]
    rfl

theorem Restores.items (restores : Restores check encode) (position : Nat) (values : List α) :
    items check position (values.map encode) = accept values := by
  induction values generalizing position with
  | nil => rfl
  | cons value values ih =>
    rw [List.map_cons, Checked.items, restores value, ih]
    rfl

theorem Restores.listOf (restores : Restores check encode) :
    Restores (listOf check) fun values => .array (values.map encode) :=
  fun values => restores.items 0 values

theorem restores_texts : Restores (listOf string) .texts := restores_string.listOf

theorem Restores.mandatory (restores : Restores check encode) {value : α}
    (found : fields.get? name = some (encode value)) :
    mandatory fields name check = accept value := by
  rw [Checked.mandatory, found]
  simp only [restores value]
  rfl

theorem Restores.defaulting (restores : Restores check encode) {value default : α}
    (found : fields.get? name = some (encode value)) :
    defaulting fields name default check = accept value := by
  rw [Checked.defaulting, found]
  simp only [restores value]
  rfl

/-- The fields of a record are checked one after the other, the last one last. -/
theorem and_restored {build : Checked (α → β)} {field : Checked α} {make : α → β} {value : α}
    (before : build = accept make) (last : field = accept value) :
    build.and field = accept (make value) := by
  rw [before, last]
  rfl

end Checked

open Checked

/-! ### Tags and declarations -/

theorem Tag.restores : Restores Tag.check fun tag => .object tag.state := by
  rintro ⟨tagName, text, name, types⟩
  simp only [Tag.check, record]
  iterate 4 apply and_restored
  · rfl
  · exact restores_string.mandatory rfl
  · exact restores_string.defaulting rfl
  · exact restores_textOrNull.defaulting rfl
  · exact restores_texts.defaulting rfl

theorem Declaration.restores :
    Restores Declaration.check fun declaration => .object declaration.state := by
  rintro ⟨type, tags, path⟩
  simp only [Declaration.check, record]
  iterate 3 apply and_restored
  · rfl
  · exact restores_string.mandatory rfl
  · exact Tag.restores.listOf.defaulting rfl
  · exact restores_textOrNull.defaulting rfl

theorem ApiContext.restores : Restores ApiContext.check fun api => .object api.state := by
  rintro ⟨description, resource⟩
  simp only [ApiContext.check, record]
  iterate 2 apply and_restored
  · rfl
  · exact restores_textOrNull.defaulting rfl
  · exact restores_textOrNull.defaulting rfl

/-! ### Types and models -/

variable (load : Settings.Loaded)

theorem TypeKind.restores : Restores TypeKind.check fun kind => .text kind.word := by
  intro kind
  cases kind <;> rfl

theorem TypeRef.restores : Restores (TypeRef.check load) fun type => .object type.state := by
  rintro ⟨name, array, kind⟩
  -- The kind is among the fields, so it is not looked up.
  have given : TypeRef.check load (.object (TypeRef.state ⟨name, array, kind⟩)) =
      TypeRef.checkFields (TypeRef.state ⟨name, array, kind⟩)
        (mandatory (TypeRef.state ⟨name, array, kind⟩) "kind" TypeKind.check) := rfl
  rw [given, TypeRef.checkFields]
  iterate 3 apply and_restored
  · rfl
  · exact restores_string.mandatory rfl
  · exact restores_flag.defaulting rfl
  · exact TypeKind.restores.mandatory rfl

theorem Property.restores :
    Restores (Property.check load) fun property => .object property.state := by
  rintro ⟨name, type, description, required⟩
  simp only [Property.check, record]
  iterate 4 apply and_restored
  · rfl
  · exact restores_string.mandatory rfl
  · exact (TypeRef.restores load).mandatory rfl
  · exact restores_textOrNull.defaulting rfl
  · exact restores_flag.defaulting rfl

theorem Model.restores : Restores (Model.check load) fun model => .object model.state := by
  rintro ⟨id, properties⟩
  simp only [Model.check, record]
  iterate 2 apply and_restored
  · rfl
  · exact restores_textOrNull.defaulting rfl
  · exact (Property.restores load).listOf.defaulting rfl

/-! ### Operations -/

theorem Parameter.restores :
    Restores (Parameter.check load) fun parameter => .object parameter.state := by
  have values : Restores (nullable (listOf string)) (.orNull .texts) := restores_texts.orNull nofun
  rintro ⟨name, type, description, required, location, allowMultiple, allowableValues⟩
  simp only [Parameter.check, record]
  iterate 7 apply and_restored
  · rfl
  · exact restores_string.mandatory rfl
  · exact (TypeRef.restores load).mandatory rfl
  · exact restores_string.defaulting rfl
  · exact restores_flag.defaulting rfl
  · exact restores_string.defaulting rfl
  · exact restores_flag.defaulting rfl
  · exact values.defaulting rfl

theorem ErrorMessage.restores : Restores ErrorMessage.check fun error => .object error.state := by
  rintro ⟨code, message, responseModel⟩
  simp only [ErrorMessage.check, record]
  iterate 3 apply and_restored
  · rfl
  · exact restores_integer.mandatory rfl
  · exact restores_string.mandatory rfl
  · exact restores_textOrNull.defaulting rfl

theorem Operation.restores :
    Restores (Operation.check load) fun operation => .object operation.state := by
  have type : Restores (nullable (TypeRef.check load)) (.orNull fun type => .object type.state) :=
    (TypeRef.restores load).orNull nofun
  rintro ⟨api, path, httpMethod, summary, notes, parameters, responseType, errors, modelNames⟩
  simp only [Operation.check, record]
  iterate 9 apply and_restored
  · rfl
  · exact ApiContext.restores.mandatory rfl
  · exact restores_textOrNull.defaulting rfl
  · exact restores_textOrNull.defaulting rfl
  · exact restores_textOrNull.defaulting rfl
  · exact restores_textOrNull.defaulting rfl
  · exact (Parameter.restores load).listOf.defaulting rfl
  · exact type.defaulting rfl
  · exact ErrorMessage.restores.listOf.defaulting rfl
  · exact restores_texts.defaulting rfl

/-- Records of every kind are restored from their states, whether or not settings can be loaded. -/
theorem states_restored :
    Restores Tag.check (fun tag => .object tag.state) ∧
    Restores Declaration.check (fun declaration => .object declaration.state) ∧
    Restores ApiContext.check (fun api => .object api.state) ∧
    Restores (TypeRef.check load) (fun type => .object type.state) ∧
    Restores (Property.check load) (fun property => .object property.state) ∧
    Restores (Model.check load) (fun model => .object model.state) ∧
    Restores (Parameter.check load) (fun parameter => .object parameter.state) ∧
    Restores ErrorMessage.check (fun error => .object error.state) ∧
    Restores (Operation.check load) (fun operation => .object operation.state) :=
  ⟨Tag.restores, Declaration.restores, ApiContext.restores, TypeRef.restores load,
    Property.restores load, Model.restores load, Parameter.restores load, ErrorMessage.restores,
    Operation.restores load⟩

end DocTags
