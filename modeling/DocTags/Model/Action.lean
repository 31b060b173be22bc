import DocTags.Model.Document
import DocTags.Model.Reach
import DocTags.Session

/-!
Actions on a model in a session. Tags come with an action as they were checked, and an action whose
tags did not pass does nothing.
-/

namespace DocTags.Model

inductive Action where
  | parseTags (tags : Except Failure (List Tag))
  | valid
  | names
  | required
  | legacy
  | v2
  /-- The names that the model reaches among itself and the models of other tags. -/
  | reach (others : List (Except Failure (List Tag)))

/-- The models that lists of tags describe, up to the first failure. -/
def ofTagLists (load : Settings.Loaded) :
    List (Except Failure (List Tag)) → Except Failure (List Model)
  | [] => .ok []
  | tags :: rest => do
    let model ← ofTags load (← tags)
    let models ← ofTagLists load rest
    return model :: models

def perform (load : Settings.Loaded) (model : Model) : Action → Reply Model
  | .parseTags (.error failure) => .query model (.error failure)
  | .parseTags (.ok tags) => .ofOutcome (model.applyTags load tags)
  | .valid => .query model (.ok (.bool model.isValid))
  | .names => .query model (.ok (.texts model.referencedNames))
  | .required => .query model (.ok (.texts model.requiredNames))
  | .legacy => .query model model.legacy
  | .v2 => .query model (.ok model.v2)
  | .reach others =>
    .query model ((ofTagLists load others).map fun models =>
      .texts (model.reachableNames (model :: models)))

end DocTags.Model
