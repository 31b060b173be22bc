import DocTags.Model.Basic

/-!
Models as documents. Properties stand under their names; of several properties with one name the
last is written, in the place of the first.
-/

namespace DocTags.Model

/-- Properties under their names, each written by `write`. -/
def propertyFields (write : Property → Fields Json) (model : Model) : Fields Json :=
  Fields.ofList (model.properties.map fun property => (property.name, .object (write property)))

/-- The model in a legacy document, which needs an id. -/
def legacy (model : Model) : Except Failure Json :=
  match model.id with
  | none => .error (.ofCause .modelWithoutId (some "model"))
  | some id =>
    .ok (.object [
      ("id", .text id),
      ("properties", .object (model.propertyFields Property.legacy)),
      ("required", .texts model.requiredNames)])

def v2 (model : Model) : Json :=
  .object [
    ("properties", .object (model.propertyFields Property.v2)),
    ("required", .texts model.requiredNames)]

/-- The names under which properties are written, in order. -/
def propertyOrder (model : Model) : List String := (model.propertyFields Property.v2).names

end DocTags.Model
