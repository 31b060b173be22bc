import DocTags.Model.Basic

/-!
The names that a model reaches through references. Names are listed as they are met: first those
that the model refers to itself, then, name by name, those behind each. A name is listed once, the
starting model never, and a name without a model is listed and leads nowhere.
-/

namespace DocTags.Model

/-- The first model with a given id. -/
def find? (models : List Model) (id : String) : Option Model :=
  List.find? (fun model => model.id == some id) models

/-- The ids of some models, each once. -/
def ids (models : List Model) : List String := (models.filterMap (·.id)).eraseDups

/-- A walk under way: the names listed, and all names that must not be listed again. -/
structure Walk where
  listed : List String
  seen : List String
deriving Repr, DecidableEq

/-- The names that a model refers to and that the walk has not seen. -/
def Walk.fresh (walk : Walk) (model : Model) : List String :=
  model.referencedNames.filter (!walk.seen.contains ·)

def Walk.list (walk : Walk) (names : List String) : Walk :=
  ⟨walk.listed ++ names, walk.seen ++ names⟩

/-- Lists what a model refers to, then what lies behind each of these names, going at most `depth`
models deep. -/
def Walk.visit (models : List Model) : (depth : Nat) → Walk → Model → Walk
  | 0, walk, _ => walk
  | depth + 1, walk, model =>
    let fresh := walk.fresh model
    fresh.foldl
      (fun walk name =>
        match find? models name with
        | some next => Walk.visit models depth walk next
        | none => walk)
      (walk.list fresh)

/-- The names that a model reaches among some models. Every model on the way down was met under a
name of its own, so the walk goes no deeper than there are ids, and one more for the start. -/
def reachableNames (model : Model) (models : List Model) : List String :=
  (Walk.visit models ((ids models).length + 1) ⟨[], model.id.toList⟩ model).listed

end DocTags.Model
