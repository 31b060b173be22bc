import DocTags.Model.Basic
import DocTags.Operation.Basic
import DocTags.Record.Scalar

/-!
The check of each record. Fields are checked in the order of the record's declaration, and fields
that the record does not have are ignored.
-/

namespace DocTags

open Checked

/-! ### Tags and declarations -/

def Tag.check : Json → Checked Tag :=
  record fun fields =>
    (accept Tag.mk)
      |>.and (mandatory fields "tag_name" string)
      |>.and (defaulting fields "text" "" string)
      |>.and (defaulting fields "name" none (nullable string))
      |>.and (defaulting fields "types" [] (listOf string))

def Declaration.check : Json → Checked Declaration :=
  record fun fields =>
    (accept Declaration.mk)
      |>.and (mandatory fields "type" string)
      |>.and (defaulting fields "tags" [] (listOf Tag.check))
      |>.and (defaulting fields "path" none (nullable string))

def ApiContext.check : Json → Checked ApiContext :=
  record fun fields =>
    (accept ApiContext.mk)
      |>.and (defaulting fields "description" none (nullable string))
      |>.and (defaulting fields "resource" none (nullable string))

/-! ### Types -/

/-- The form of a value, as reports call it. -/
def Json.form : Json → String
  | .null => "NoneType"
  | .bool _ => "bool"
  | .int _ => "int"
  | .real _ => "float"
  | .text _ => "str"
  | .array _ => "list"
  | .object _ => "dict"

/-- Looks through parts for one written in upper case; a part before it that is not a text breaks
the search off. -/
def TypeKind.ofParts : List Json → Except Abort TypeKind
  | [] => .ok .primitive
  | .text part :: rest =>
    if Text.isAllUppercase part.toList then .ok .reference else ofParts rest
  | part :: _ => .error (.notCased part.form)

/-- The kind of a type whose name is any JSON value. Names that are not texts are refused later. -/
def TypeKind.ofName (load : Settings.Loaded) (name : Json) : Checked TypeKind :=
  match load with
  | .error fault => .ok (.error fault.issues)
  | .ok settings =>
    match name with
    | .text name => accept (classify settings name)
    | .array parts => (TypeKind.ofParts parts).map .ok
    | .object fields => (TypeKind.ofParts (fields.map fun field => .text field.1)).map .ok
    | other => .error (.notIterable other.form)

def TypeKind.check : Json → Checked TypeKind
  | .text "primitive" => accept .primitive
  | .text "reference" => accept .reference
  | _ => issue .notKind

/-- Checks the fields of a type whose kind is checked by `kind`. -/
def TypeRef.checkFields (fields : Fields Json) (kind : Checked TypeKind) : Checked TypeRef :=
  (accept TypeRef.mk)
    |>.and (mandatory fields "name" string)
    |>.and (defaulting fields "array" false flag)
    |>.and kind

/-- Checks a type. A kind that is not given is looked up before anything else. -/
def TypeRef.check (load : Settings.Loaded) : Json → Checked TypeRef :=
  record fun fields =>
    let given := match fields.get? "kind" with
      | none | some .null => none
      | some kind => some kind
    match given, fields.get? "name" with
    | none, some name =>
      match TypeKind.ofName load name with
      | .ok (.ok kind) => TypeRef.checkFields fields (accept kind)
      | .ok (.error issues) => .ok (.error issues)
      | .error abort => .error abort
    | _, _ => TypeRef.checkFields fields (mandatory fields "kind" TypeKind.check)

/-! ### Models and operations -/

def Property.check (load : Settings.Loaded) : Json → Checked Property :=
  record fun fields =>
    (accept Property.mk)
      |>.and (mandatory fields "name" string)
      |>.and (mandatory fields "type" (TypeRef.check load))
      |>.and (defaulting fields "description" none (nullable string))
      |>.and (defaulting fields "required" false flag)

def Model.check (load : Settings.Loaded) : Json → Checked Model :=
  record fun fields =>
    (accept Model.mk)
      |>.and (defaulting fields "id" none (nullable string))
      |>.and (defaulting fields "properties" [] (listOf (Property.check load)))

def Parameter.check (load : Settings.Loaded) : Json → Checked Parameter :=
  record fun fields =>
    (accept Parameter.mk)
      |>.and (mandatory fields "name" string)
      |>.and (mandatory fields "type" (TypeRef.check load))
      |>.and (defaulting fields "description" "" string)
      |>.and (defaulting fields "required" false flag)
      |>.and (defaulting fields "param_type" "query" string)
      |>.and (defaulting fields "allow_multiple" false flag)
      |>.and (defaulting fields "allowable_values" none (nullable (listOf string)))

def ErrorMessage.check : Json → Checked ErrorMessage :=
  record fun fields =>
    (accept ErrorMessage.mk)
      |>.and (mandatory fields "code" integer)
      |>.and (mandatory fields "message" string)
      |>.and (defaulting fields "response_model" none (nullable string))

def Operation.check (load : Settings.Loaded) : Json → Checked Operation :=
  record fun fields =>
    (accept Operation.mk)
      |>.and (mandatory fields "api" ApiContext.check)
      |>.and (defaulting fields "path" none (nullable string))
      |>.and (defaulting fields "http_method" none (nullable string))
      |>.and (defaulting fields "summary" none (nullable string))
      |>.and (defaulting fields "notes" none (nullable string))
      |>.and (defaulting fields "parameters" [] (listOf (Parameter.check load)))
      |>.and (defaulting fields "response_type" none (nullable (TypeRef.check load)))
      |>.and (defaulting fields "error_messages" [] (listOf ErrorMessage.check))
      |>.and (defaulting fields "model_names" [] (listOf string))

end DocTags
