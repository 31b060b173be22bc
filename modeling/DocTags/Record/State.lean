import DocTags.Model.Basic
import DocTags.Operation.Basic

/-!
The state of each record: all its fields as JSON, in the order of the record's declaration. What is
not there is null.
-/

namespace DocTags

/-- A value in JSON, or null when there is none. -/
def Json.orNull {α : Type} (encode : α → Json) : Option α → Json
  | some value => encode value
  | none => .null

def Tag.state (tag : Tag) : Fields Json :=
  [("tag_name", .text tag.tagName),
   ("text", .text tag.text),
   ("name", .textOrNull tag.name),
   ("types", .texts tag.types)]

def Declaration.state (declaration : Declaration) : Fields Json :=
  [("type", .text declaration.type),
   ("tags", .array (declaration.tags.map fun tag => .object tag.state)),
   ("path", .textOrNull declaration.path)]

def ApiContext.state (api : ApiContext) : Fields Json :=
  [("description", .textOrNull api.description),
   ("resource", .textOrNull api.resource)]

def TypeKind.word : TypeKind → String
  | .primitive => "primitive"
  | .reference => "reference"

def TypeRef.state (type : TypeRef) : Fields Json :=
  [("name", .text type.name),
   ("array", .bool type.array),
   ("kind", .text type.kind.word)]

def Property.state (property : Property) : Fields Json :=
  [("name", .text property.name),
   ("type", .object property.type.state),
   ("description", .textOrNull property.description),
   ("required", .bool property.required)]

def Model.state (model : Model) : Fields Json :=
  [("id", .textOrNull model.id),
   ("properties", .array (model.properties.map fun property => .object property.state))]

def Parameter.state (parameter : Parameter) : Fields Json :=
  [("name", .text parameter.name),
   ("type", .object parameter.type.state),
   ("description", .text parameter.description),
   ("required", .bool parameter.required),
   ("param_type", .text parameter.location),
   ("allow_multiple", .bool parameter.allowMultiple),
   ("allowable_values", .orNull .texts parameter.allowableValues)]

def ErrorMessage.state (error : ErrorMessage) : Fields Json :=
  [("code", .int error.code),
   ("message", .text error.message),
   ("response_model", .textOrNull error.responseModel)]

def Operation.state (operation : Operation) : Fields Json :=
  [("api", .object operation.api.state),
   ("path", .textOrNull operation.path),
   ("http_method", .textOrNull operation.httpMethod),
   ("summary", .textOrNull operation.summary),
   ("notes", .textOrNull operation.notes),
   ("parameters", .array (operation.parameters.map fun parameter => .object parameter.state)),
   ("response_type", .orNull (fun type => .object type.state) operation.responseType),
   ("error_messages", .array (operation.errorMessages.map fun error => .object error.state)),
   ("model_names", .texts operation.modelNames)]

end DocTags
