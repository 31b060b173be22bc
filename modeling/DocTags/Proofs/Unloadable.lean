import DocTags.Proofs.Model.Tags
import DocTags.Settings.Load

/-!
# When the settings cannot be loaded

Settings are asked for late: only once a tag is found well-formed, and only by tags that give a type
or notes. So a malformed tag is still reported as long as no tag before it asks for settings, and
otherwise the failure to load them is. No operation is built, since the parameter for the response
format asks for settings too; a model is built if it has no properties.
-/

namespace DocTags

/-- The settings failed to load, when they were asked for or when a type was classified. -/
def Settings.Fault.Surfaces (fault : Settings.Fault) (failure : Failure) : Prop :=
  failure = .settings fault ∨ failure = .unclassified fault

variable {fault : Settings.Fault} {failure : Failure} {tag : Tag} {before after tags : List Tag}

theorem Settings.Fault.Surfaces.inDeclaration (surfaces : fault.Surfaces failure)
    (path : Option String) : failure.inDeclaration path = failure := by
  rcases surfaces with rfl | rfl <;> rfl

namespace Operation

/-! ### One tag -/

end Operation

namespace Model

end Model

/-- A method with a malformed tag between one that does not need settings and one that does. -/
def withoutMethod : Declaration where
  type := "method"
  tags :=
    [⟨"summary", "", none, []⟩, ⟨"path", "/", none, []⟩, ⟨"response_type", "", none, ["T"]⟩]
  path := some "Widgets#index"

end DocTags
