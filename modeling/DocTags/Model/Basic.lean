import DocTags.Outcome
import DocTags.Property

/-!
Models: an id and properties in order, from the `@model` and `@property` tags of a class. The first
`@model` tag gives the id, every `@property` tag adds a property, and other tags say nothing.
-/

namespace DocTags

structure Model where
  id : Option String
  properties : List Property
deriving Repr, DecidableEq

namespace Model

/-- A model about which nothing is said yet. -/
def empty : Model := ⟨none, []⟩

def applyTag (load : Settings.Loaded) (model : Model) (tag : Tag) : Except Failure Model :=
  match tag.tagName with
  | "model" => .ok { model with id := model.id <|> some tag.text }
  | "property" =>
    match Property.ofTag load tag with
    | .ok property => .ok { model with properties := model.properties ++ [property] }
    | .error failure => .error failure
  | _ => .ok model

/-- Takes in tags in order; a failing tag leaves the model as the tags before it made it. -/
def applyTags (load : Settings.Loaded) (model : Model) : List Tag → Outcome Model
  | [] => .done model
  | tag :: rest =>
    match model.applyTag load tag with
    | .ok next => next.applyTags load rest
    | .error failure => .stopped model failure

/-- The model that tags describe. -/
def ofTags (load : Settings.Loaded) (tags : List Tag) : Except Failure Model :=
  let outcome := empty.applyTags load tags
  match outcome.failure with
  | some failure => .error failure
  | none => .ok outcome.state

/-- The model that a declaration describes. -/
def ofDeclaration (load : Settings.Loaded) (declaration : Declaration) : Logged Model :=
  match ofTags load declaration.tags with
  | .error failure => ⟨[], .error (failure.inDeclaration declaration.path)⟩
  | .ok model => ⟨[.builtModel model.id model.properties.length], .ok model⟩

/-- The model that the first class among some declarations describes, if there is one. -/
def ofDeclarations (load : Settings.Loaded) (declarations : List Declaration) :
    Logged (Option Model) :=
  match declarations.find? (·.type == "class") with
  | none => ⟨[.noClassDeclaration declarations.length], .ok none⟩
  | some declaration =>
    (ofDeclaration load declaration).andThen fun model => ⟨[], .ok (some model)⟩

def isValid (model : Model) : Bool := model.id.isSome

/-- The models that the properties refer to, each once, in order of first mention. -/
def referencedNames (model : Model) : List String :=
  (model.properties.filterMap Property.modelName?).eraseDups

def requiredNames (model : Model) : List String :=
  (model.properties.filter (·.required)).map (·.name)

end Model

end DocTags
