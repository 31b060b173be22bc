import DocTags.Model.Reach
import DocTags.Operation.Basic

/-!
Catalogues: all models and operations of a group of declarations. Classes give models and methods
give operations, in order; other declarations say nothing.
-/

namespace DocTags

/-- The models and operations of a group of declarations. -/
structure Catalogue where
  models : List Model
  operations : List Operation
deriving Repr, DecidableEq

namespace Catalogue

/-- The catalogue of some declarations; all models are built before the first operation. -/
def ofDeclarations (load : Settings.Loaded) (api : ApiContext) (declarations : List Declaration) :
    Logged Catalogue :=
  let classes := declarations.filter (·.type == "class")
  let methods := declarations.filter (·.type == "method")
  (Logged.forEach (Model.ofDeclaration load) classes).andThen fun models =>
    (Logged.forEach (Operation.ofDeclaration load · api) methods).andThen fun operations =>
      ⟨[], .ok ⟨models, operations⟩⟩

/-- For each model, the names that it reaches among all of them. -/
def reachableNames (catalogue : Catalogue) : List (List String) :=
  catalogue.models.map (·.reachableNames catalogue.models)

end Catalogue

end DocTags
