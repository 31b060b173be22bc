import DocTags.Model.Document
import DocTags.Proofs.Document.Alike
import Mathlib.Data.List.Nodup

/-!
# What can be told from the v2 document of a model

A model is written as properties under their names and, apart from these, the names of those that
are required. If no two properties have one name, nothing is overwritten: each property is found
under its name with its type and its description, and it is required exactly if its name is listed.
-/

namespace DocTags

/-- Properties that say the same; an empty description says nothing. -/
structure Property.Alike (property other : Property) : Prop where
  name : property.name = other.name
  type : property.type = other.type
  required : property.required = other.required
  description : property.description.getD "" = other.description.getD ""

/-! ### Properties -/

namespace Property

variable {property other : Property}

theorem get?_descriptionFields (property : Property) (wanted : String) :
    property.descriptionFields.get? wanted =
      if wanted = "description" then (property.description.bind Text.nonempty?).map .text
      else none := by
  unfold descriptionFields
  cases property.description.bind Text.nonempty? with
  | none => simp [Fields.get?]
  | some description => simp [Fields.get?, eq_comm]

theorem get?_type_description (type : TypeRef) : Fields.get? type.v2 "description" = none := by
  unfold TypeRef.v2 TypeRef.v2Element
  cases type.array <;> cases type.isReference <;> rfl

theorem get?_v2_description (property : Property) :
    Json.get? (.object property.v2) "description" =
      (property.description.bind Text.nonempty?).map .text := by
  rw [Json.get?, v2, Fields.get?_append, get?_type_description, get?_descriptionFields, if_pos rfl,
    Option.none_or]

theorem get?_v2_of_ne (property : Property) {wanted : String} (different : wanted ≠ "description") :
    Json.get? (.object property.v2) wanted = Fields.get? property.type.v2 wanted := by
  rw [Json.get?, v2, Fields.get?_append, get?_descriptionFields, if_neg different, Option.or_none]

theorem type_eq_of_v2 (alike : Json.Alike (.object property.v2) (.object other.v2)) :
    property.type = other.type := by
  apply TypeRef.eq_of_alike
  refine .object fun wanted => ?_
  by_cases described : wanted = "description"
  · rw [described, get?_type_description, get?_type_description]
    exact .none
  · have each := alike.get? wanted
    rwa [get?_v2_of_ne property described, get?_v2_of_ne other described] at each

theorem description_eq_of_v2 (alike : Json.Alike (.object property.v2) (.object other.v2)) :
    property.description.getD "" = other.description.getD "" := by
  have each := alike.get? "description"
  rw [get?_v2_description, get?_v2_description] at each
  have same := Json.eq_of_rel_map Json.Alike.text_eq each
  rw [← Text.getD_bind_nonempty?, same, Text.getD_bind_nonempty?]

end Property

/-! ### Models -/

namespace Model

variable {model other : Model} {property : Property}

/-- No two properties have one name. -/
def Distinct (model : Model) : Prop := (model.properties.map (·.name)).Nodup

theorem names_map (properties : List Property) (write : Property → Json) :
    Fields.names (properties.map fun property => (property.name, write property)) =
      properties.map (·.name) := by
  rw [Fields.names, List.map_map]
  rfl

theorem Distinct.propertyFields (distinct : model.Distinct) (write : Property → Fields Json) :
    model.propertyFields write =
      model.properties.map fun property => (property.name, .object (write property)) := by
  apply Fields.ofList_of_nodup
  rw [names_map]
  exact distinct

theorem Distinct.propertyOrder (distinct : model.Distinct) :
    model.propertyOrder = model.properties.map (·.name) := by
  rw [Model.propertyOrder, distinct.propertyFields, names_map]

theorem Distinct.get?_propertyFields (distinct : model.Distinct) (write : Property → Fields Json)
    (member : property ∈ model.properties) :
    (model.propertyFields write).get? property.name = some (.object (write property)) := by
  rw [distinct.propertyFields]
  apply Fields.get?_of_mem
  · rw [names_map]
    exact distinct
  · exact List.mem_map_of_mem member

theorem Distinct.mem_requiredNames (distinct : model.Distinct)
    (member : property ∈ model.properties) :
    property.name ∈ model.requiredNames ↔ property.required = true := by
  constructor
  · intro listed
    obtain ⟨found, inRequired, same⟩ := List.mem_map.mp listed
    obtain ⟨inModel, required⟩ := List.mem_filter.mp inRequired
    obtain rfl : found = property := List.inj_on_of_nodup_map distinct inModel member same
    exact required
  · intro required
    exact List.mem_map_of_mem (List.mem_filter.mpr ⟨member, required⟩)

theorem property_alike {partner : Property} (distinct : model.Distinct)
    (otherDistinct : other.Distinct) (alike : model.v2.Alike other.v2)
    (member : property ∈ model.properties) (partnerMember : partner ∈ other.properties)
    (name : property.name = partner.name) : property.Alike partner := by
  have fields := alike.field "properties" rfl rfl
  have required : model.requiredNames = other.requiredNames :=
    (alike.field "required" rfl rfl).texts_eq
  have here := distinct.get?_propertyFields Property.v2 member
  have there := otherDistinct.get?_propertyFields Property.v2 partnerMember
  rw [← name] at there
  have written := fields.field property.name here there
  refine ⟨name, Property.type_eq_of_v2 written, ?_, Property.description_eq_of_v2 written⟩
  rw [Bool.eq_iff_iff, ← distinct.mem_requiredNames member,
    ← otherDistinct.mem_requiredNames partnerMember, required, name]

/-- Models without repeated names whose v2 documents are alike, with their properties in the same
order, have the same properties, one by one and up to empty descriptions. -/
theorem v2_recovers_properties (model other : Model) (distinct : model.Distinct)
    (otherDistinct : other.Distinct) (alike : model.v2.Alike other.v2)
    (order : model.propertyOrder = other.propertyOrder) :
    List.Forall₂ Property.Alike model.properties other.properties := by
  rw [distinct.propertyOrder, otherDistinct.propertyOrder] at order
  have named : List.Forall₂ (fun property partner => property.name = partner.name)
      model.properties other.properties := by
    have same : List.Forall₂ (· = ·) (model.properties.map (·.name))
        (other.properties.map (·.name)) := List.forall₂_eq_eq_eq ▸ order
    rwa [List.forall₂_map_left_iff, List.forall₂_map_right_iff] at same
  rw [List.forall₂_iff_zip] at named ⊢
  refine ⟨named.1, fun paired => ?_⟩
  have ⟨member, partnerMember⟩ := List.of_mem_zip paired
  exact property_alike distinct otherDistinct alike member partnerMember (named.2 paired)

/-- Its first property has a type that is named `array`, its second an array type. -/
def widget (id description : Option String) : Model where
  id := id
  properties := [
    ⟨"array", ⟨"array", false, .primitive⟩, description, true⟩,
    ⟨"owner", ⟨"User", true, .reference⟩, some "Who", false⟩]

theorem v2_recovers_properties_emptyDescription :
    (widget (some "Widget") none).v2.Alike (widget none (some "")).v2 ∧
    List.Forall₂ Property.Alike (widget (some "Widget") none).properties
      (widget none (some "")).properties := by
  have distinct : ∀ id description, (widget id description).Distinct := by
    intro id description
    simp [widget, Distinct]
  have alike : (widget (some "Widget") none).v2.Alike (widget none (some "")).v2 := .refl _
  exact ⟨alike, v2_recovers_properties _ _ (distinct _ _) (distinct _ _) alike rfl⟩

end Model

end DocTags
