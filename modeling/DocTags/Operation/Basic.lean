import DocTags.Outcome
import DocTags.Parameter
import DocTags.Text.CodeOrder
import DocTags.Text.Numeral

/-!
Operations: one endpoint each, from the tags of a method. Tags are taken in one by one, and a tag
that is malformed leaves the operation as it was. Once all tags are in, parameters are sorted by
name and the parameter for the response format comes last.
-/

namespace DocTags

structure ErrorMessage where
  code : Int
  message : String
  /-- The type of the response, not yet read. -/
  responseModel : Option String
deriving Repr, DecidableEq

structure Operation where
  api : ApiContext
  path : Option String
  httpMethod : Option String
  summary : Option String
  notes : Option String
  parameters : List Parameter
  responseType : Option TypeRef
  errorMessages : List ErrorMessage
  /-- The models that response types refer to, as often as they are mentioned. -/
  modelNames : List String
deriving Repr, DecidableEq

/-- What a tag says about an operation. -/
inductive TagRole where
  | path
  | parameter
  | shorthand
  | responseType
  | errorMessage
  | summary
  | notes
  | unrecognized
deriving Repr, DecidableEq

def TagRole.ofName : String → TagRole
  | "path" => .path
  | "parameter" => .parameter
  | "parameter_list" => .shorthand
  | "response_type" => .responseType
  | "error_message" => .errorMessage
  | "summary" => .summary
  | "notes" => .notes
  | _ => .unrecognized

def Tag.role (tag : Tag) : TagRole := TagRole.ofName tag.tagName

/-- Reads an error response; the name slot holds the status code. -/
def ErrorMessage.ofTag (tag : Tag) : Except Failure ErrorMessage :=
  match tag.name.bind fun name => Text.readInt? name.toList with
  | some code => .ok ⟨code, tag.text, tag.types.head?⟩
  | none => .error (.ofCause (.statusCode tag.name) (some tag.tagName))

/-- Whether the name of one parameter does not come after that of another. -/
def Parameter.namesInOrder (a b : Parameter) : Bool :=
  Text.notAfter a.name.toList b.name.toList

namespace Operation

/-- An operation of an API about which nothing is said yet. -/
def ofApi (api : ApiContext) : Operation where
  api := api
  path := none
  httpMethod := none
  summary := none
  notes := none
  parameters := []
  responseType := none
  errorMessages := []
  modelNames := []

def addParameters (operation : Operation) (parameters : List Parameter) : Operation :=
  { operation with parameters := operation.parameters ++ parameters }

/-- The parameters for placeholders, in order. -/
def placeholderParameters (load : Settings.Loaded) : List String → Except Failure (List Parameter)
  | [] => .ok []
  | name :: rest => do
    let parameter ← Parameter.ofPlaceholder load name
    let parameters ← placeholderParameters load rest
    return parameter :: parameters

/-- Takes in a tag such as `@path [PUT] /accounts/{account_id}`. Path and method are set before the
placeholders are looked at. -/
def applyPath (load : Settings.Loaded) (operation : Operation) (tag : Tag) : Outcome Operation :=
  match tag.types with
  | [] => .stopped operation (.ofCause .withoutMethod (some tag.tagName))
  | method :: _ =>
    let located := { operation with path := some tag.text, httpMethod := some method }
    match placeholderParameters load (PathTemplate.placeholders tag.text) with
    | .ok parameters => .done (located.addParameters parameters)
    | .error failure => .stopped located failure

/-- Sets the response type; a model that it refers to is remembered. -/
def setResponseType (operation : Operation) (type : TypeRef) : Operation :=
  { operation with
    responseType := some type
    modelNames := operation.modelNames ++ type.modelName?.toList }

/-- Goes on with a value, or stops with the operation as it was. -/
def orStop {α : Type} (operation : Operation) (value : Except Failure α) (next : α → Operation) :
    Outcome Operation :=
  match value with
  | .ok value => .done (next value)
  | .error failure => .stopped operation failure

def applyTag (load : Settings.Loaded) (operation : Operation) (tag : Tag) : Outcome Operation :=
  match tag.role with
  | .path => operation.applyPath load tag
  | .parameter =>
    operation.orStop (Parameter.ofTag load tag) fun parameter => operation.addParameters [parameter]
  | .shorthand =>
    operation.orStop (Parameter.ofShorthand load tag) fun parameter =>
      operation.addParameters [parameter]
  | .responseType => operation.orStop (TypeRef.ofTypes load tag.types) operation.setResponseType
  | .errorMessage =>
    operation.orStop (ErrorMessage.ofTag tag) fun error =>
      { operation with errorMessages := operation.errorMessages ++ [error] }
  | .summary => .done { operation with summary := some tag.text }
  | .notes =>
    match load with
    | .ok settings =>
      let notes := Text.replaceLineBreaks settings.notesLineBreak tag.text
      .done { operation with notes := some notes }
    | .error fault => .stopped operation (.settings fault)
  | .unrecognized => ⟨operation, [.ignoredTag tag.tagName], none⟩

/-- Takes in tags in order, up to the first that fails; its name is put into the failure. -/
def applyTags (load : Settings.Loaded) (operation : Operation) : List Tag → Outcome Operation
  | [] => .done operation
  | tag :: rest =>
    ((operation.applyTag load tag).mapFailure (Failure.inTagIfUnknown tag.tagName)).andThen
      fun next => next.applyTags load rest

/-- Sorts the parameters by name, by code point; parameters of one name keep their order. -/
def sortParameters (operation : Operation) : Operation :=
  { operation with parameters := operation.parameters.mergeSort Parameter.namesInOrder }

def appendFormat (load : Settings.Loaded) (operation : Operation) : Outcome Operation :=
  operation.orStop (Parameter.format load) fun parameter => operation.addParameters [parameter]

/-- The operation that a declaration describes. -/
def ofDeclaration (load : Settings.Loaded) (declaration : Declaration) (api : ApiContext) :
    Logged Operation :=
  let tagged := (ofApi api).applyTags load declaration.tags
  match tagged.failure with
  | some failure => ⟨tagged.log, .error (failure.inDeclaration declaration.path)⟩
  | none =>
    let formatted := tagged.state.sortParameters.appendFormat load
    match formatted.failure with
    | some failure => ⟨tagged.log, .error failure⟩
    | none =>
      let operation := formatted.state
      ⟨tagged.log ++ [.builtOperation operation.httpMethod operation.path], .ok operation⟩

end Operation

end DocTags
