import DocTags.Failure
import DocTags.Json.Basic
import DocTags.Text.Blank
import DocTags.Text.LetterCase
import DocTags.Text.Lowercase
import DocTags.Text.Pieces

/-!
Type references such as `string`, `Widget` or `Array<Widget>`, as properties, parameters and
responses use them. A reference is to a primitive type or to a model; which of the two is looked up
in the settings, unless it is given.
-/

namespace DocTags

/-- What a type name stands for. -/
inductive TypeKind where
  | primitive
  | reference
deriving Repr, DecidableEq

/-- A type, perhaps an array of it, perhaps the name of a model. -/
structure TypeRef where
  name : String
  array : Bool
  kind : TypeKind
deriving Repr, DecidableEq

/-- Configured primitive types come first; of the other names, those with an upper-case character
refer to models. -/
def classify (settings : Settings) (name : String) : TypeKind :=
  if name ∈ settings.primitiveTypes then .primitive
  else if name.toList.any Text.isUppercase then .reference
  else .primitive

namespace TypeRef

/-- The type with a given name, its kind looked up in the settings. -/
def classified (load : Settings.Loaded) (name : String) (array : Bool) : Except Failure TypeRef :=
  match load with
  | .ok settings => .ok ⟨name, array, classify settings name⟩
  | .error fault => .error (.unclassified fault)

def isAngle (c : Char) : Bool := c == '<' || c == '>'

/-- The fragments between angle brackets, without the empty ones. -/
def fragments (raw : List Char) : List (List Char) :=
  (Text.pieces isAngle (Text.trim raw)).filter (!·.isEmpty)

/-- Whether a fragment makes the type an array. -/
def isArrayWord (fragment : List Char) : Bool := Text.lower fragment == "array".toList

/-- Reads a type: the last fragment is its name. -/
def parse (load : Settings.Loaded) (raw : String) : Except Failure TypeRef :=
  let parts := fragments raw.toList
  match parts.getLast? with
  | none => .error (.ofCause (.emptyType raw) none)
  | some name => classified load (String.ofList name) (parts.any isArrayWord)

/-- Reads the first of the types of a tag. -/
def ofTypes (load : Settings.Loaded) : List String → Except Failure TypeRef
  | [] => .error (.ofCause .withoutType none)
  | raw :: _ => parse load raw

def isReference (type : TypeRef) : Bool := type.kind == .reference

/-- The model that the type refers to. -/
def modelName? (type : TypeRef) : Option String := if type.isReference then some type.name else none

def legacy (type : TypeRef) : Fields Json :=
  if type.array then
    let tag := if type.isReference then "$ref" else "type"
    [("type", .text "array"), ("items", .object [(tag, .text type.name)])]
  else [("type", .text type.name)]

/-- The type without regard to arrays in a v2 document. -/
def v2Element (type : TypeRef) : Fields Json :=
  if type.isReference then [("$ref", .text ("#/definitions/" ++ type.name))]
  else [("type", .text type.name)]

def v2 (type : TypeRef) : Fields Json :=
  if type.array then [("type", .text "array"), ("items", .object type.v2Element)]
  else type.v2Element

end TypeRef

end DocTags
