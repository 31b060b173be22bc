import DocTags.Grammar.NameSlot
import DocTags.Tag
import DocTags.Text.Nonempty
import DocTags.TypeRef

/-!
Properties of models, each from one `@property` tag.
-/

namespace DocTags

structure Property where
  name : String
  type : TypeRef
  description : Option String
  required : Bool
deriving Repr, DecidableEq

namespace Property

/-- Reads a tag such as `@property owner(required) [User] The widget owner`. -/
def ofTag (load : Settings.Loaded) (tag : Tag) : Except Failure Property :=
  match tag.name.bind Text.nonempty? with
  | none => .error (.ofCause .propertyWithoutName (some tag.tagName))
  | some raw =>
    let slot := NameSlot.read raw
    match TypeRef.ofTypes load tag.types with
    | .error failure => .error (failure.inTag tag.tagName)
    | .ok type => .ok ⟨slot.name, type, Text.nonempty? tag.text, slot.options.contains "required"⟩

def modelName? (property : Property) : Option String := property.type.modelName?

/-- The description as a field of a document; an empty one is left out. -/
def descriptionFields (property : Property) : Fields Json :=
  match property.description.bind Text.nonempty? with
  | some description => [("description", .text description)]
  | none => []

def legacy (property : Property) : Fields Json :=
  property.type.legacy ++ property.descriptionFields

def v2 (property : Property) : Fields Json :=
  property.type.v2 ++ property.descriptionFields

end Property

end DocTags
