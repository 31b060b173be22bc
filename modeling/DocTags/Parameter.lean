import DocTags.Grammar.NameSlot
import DocTags.Grammar.PathTemplate
import DocTags.Grammar.Shorthand
import DocTags.Tag
import DocTags.Text.Nonempty
import DocTags.TypeRef

/-!
Parameters of operations: placeholders of the path, `@parameter` tags, the shorthand of
`@parameter_list` tags, and the parameter for the response format.
-/

namespace DocTags

structure Parameter where
  name : String
  type : TypeRef
  description : String
  required : Bool
  /-- Where the parameter is passed: path, query, body, … -/
  location : String
  allowMultiple : Bool
  allowableValues : Option (List String)
deriving Repr, DecidableEq

namespace Parameter

def ofPlaceholder (load : Settings.Loaded) (name : String) : Except Failure Parameter :=
  match TypeRef.classified load "string" false with
  | .error failure => .error failure
  | .ok type =>
    .ok
      { name, type
        description := "Scope response to " ++ name
        required := true
        location := "path"
        allowMultiple := false
        allowableValues := none }

/-- Whether an option is a flag and not a location. -/
def isFlag (option : String) : Bool := option == "required" || option == "multiple"

/-- Where options say that a parameter is passed: the last one that is not a flag. -/
def locationOf (options : List String) : String :=
  ((options.filter (!isFlag ·)).getLast?).getD "query"

/-- Reads a tag such as `@parameter [Array] status(required, body) Filter by status.` -/
def ofTag (load : Settings.Loaded) (tag : Tag) : Except Failure Parameter :=
  match tag.name.bind Text.nonempty? with
  | none => .error (.ofCause .parameterWithoutName (some tag.tagName))
  | some raw =>
    let slot := NameSlot.read raw
    match TypeRef.ofTypes load tag.types with
    | .error failure => .error (failure.inTag tag.tagName)
    | .ok type =>
      .ok
        { name := slot.name, type
          description := tag.text
          required := slot.options.contains "required"
          location := locationOf slot.options
          allowMultiple := slot.options.contains "multiple"
          allowableValues := none }

/-- Reads a parameter in shorthand; its type name is lower-cased. -/
def ofShorthand (load : Settings.Loaded) (tag : Tag) : Except Failure Parameter :=
  match Shorthand.read tag.text with
  | .error failure => .error failure
  | .ok shorthand =>
    match TypeRef.classified load (Text.lowered shorthand.typeName) false with
    | .error failure => .error failure
    | .ok type =>
      .ok
        { name := shorthand.name, type
          description := shorthand.description
          required := shorthand.required
          location := "query"
          allowMultiple := false
          allowableValues := some shorthand.values }

def format (load : Settings.Loaded) : Except Failure Parameter :=
  match load with
  | .error fault => .error (.unclassified fault)
  | .ok settings =>
    .ok
      { name := PathTemplate.formatName
        type := ⟨"string", false, classify settings "string"⟩
        description := "Response format either JSON or XML"
        required := true
        location := "path"
        allowMultiple := false
        allowableValues := some settings.formatValues }

def legacy (parameter : Parameter) : Fields Json :=
  [("paramType", .text parameter.location),
   ("name", .text parameter.name),
   ("description", .text parameter.description),
   ("required", .bool parameter.required),
   ("allowMultiple", .bool parameter.allowMultiple)] ++
  parameter.type.legacy ++
  match parameter.allowableValues with
  | some values =>
    [("allowableValues", .object [("valueType", .text "LIST"), ("values", .texts values)])]
  | none => []

/-- The type of the parameter in a v2 document: references stand in a schema of their own, and
arrays that take several values say so. -/
def v2Type (parameter : Parameter) : Fields Json :=
  if parameter.type.isReference then [("schema", .object parameter.type.v2)]
  else if parameter.allowMultiple && parameter.type.array then
    parameter.type.v2 ++ [("collectionFormat", .text "multi")]
  else parameter.type.v2

def v2 (parameter : Parameter) : Fields Json :=
  [("name", .text parameter.name),
   ("description", .text parameter.description),
   ("required", .bool parameter.required),
   ("in", .text parameter.location)] ++
  parameter.v2Type ++
  match parameter.allowableValues with
  | some values => [("enum", .texts values)]
  | none => []

end Parameter

end DocTags
