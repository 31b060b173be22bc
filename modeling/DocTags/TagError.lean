import DocTags.Text.Quoted

/-!
Errors about tags. An error has a message and, as far as they are known, the tag and the
declaration that it is about; its description puts the place in front of the message.
-/

namespace DocTags

/-- The families of errors about tags. -/
inductive TagError.Kind where
  /-- Any other error. -/
  | general
  /-- A tag that does not follow its grammar. -/
  | malformedTag
  /-- A model that was never given an id. -/
  | missingModelId
deriving Repr, DecidableEq

structure TagError where
  kind : TagError.Kind
  message : String
  tagName : Option String
  declaration : Option String
deriving Repr, DecidableEq

namespace TagError

/-- The place of an error: its declaration and its tag, as far as they are known and not empty. -/
def place (error : TagError) : List String :=
  let declaration := (error.declaration.getD "")
  let tagName := (error.tagName.getD "")
  (if declaration.isEmpty then [] else [declaration]) ++
    (if tagName.isEmpty then [] else ["@" ++ tagName])

/-- The message with the place in front. -/
def describe (error : TagError) : String :=
  match error.place with
  | [] => error.message
  | parts => " ".intercalate parts ++ ": " ++ error.message

/-- What can be wrong with the tags of a declaration. -/
inductive Cause where
  | propertyWithoutName
  | parameterWithoutName
  | withoutType
  | emptyType (raw : String)
  | withoutMethod
  | statusCode (name : Option String)
  | shorthand (text : String)
  | modelWithoutId
  | operationWithoutPath
deriving Repr, DecidableEq

/-- The family that a cause belongs to. -/
def Cause.kind : Cause → Kind
  | .modelWithoutId => .missingModelId
  | .operationWithoutPath => .general
  | _ => .malformedTag

def Cause.message : Cause → String
  | .propertyWithoutName => "property is missing a name"
  | .parameterWithoutName => "parameter is missing a name"
  | .withoutType => "missing [Type] annotation"
  | .emptyType raw => "empty type annotation " ++ Text.quoted raw
  | .withoutMethod => "missing [HTTP_METHOD] annotation"
  | .statusCode name =>
    "status code " ++ (name.map Text.quoted).getD "None" ++ " is not an integer"
  | .shorthand text =>
    "expected '[Type] name(required)? description' followed by [List] lines, got " ++
      Text.quoted text
  | .modelWithoutId => "model is missing a @model tag"
  | .operationWithoutPath => "operation is missing a @path tag"

/-- The error for a cause, about the given tag if that is known. -/
def ofCause (cause : Cause) (tagName : Option String) : TagError :=
  ⟨cause.kind, cause.message, tagName, none⟩

end TagError

end DocTags
