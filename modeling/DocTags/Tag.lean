/-!
What the extractor of annotations hands over: tags, the declarations that carry them, and the API
to which operations belong.
-/

namespace DocTags

/-- One tag, such as `@parameter [Integer] id(required) Widget ID`. -/
structure Tag where
  /-- The word after the at sign. -/
  tagName : String
  text : String
  /-- The name slot with its options, such as `id(required)`. -/
  name : Option String
  /-- The types in brackets. -/
  types : List String
deriving Repr, DecidableEq

/-- A class or a method with its tags. -/
structure Declaration where
  type : String
  tags : List Tag
  path : Option String
deriving Repr, DecidableEq

/-- The tags of a declaration that have a given tag name, in order. -/
def Declaration.tagsNamed (declaration : Declaration) (tagName : String) : List Tag :=
  declaration.tags.filter (·.tagName == tagName)

/-- The API that a group of operations belongs to. -/
structure ApiContext where
  /-- The summary of operations that have none. -/
  description : Option String
  /-- The group under which operations are listed. -/
  resource : Option String
deriving Repr, DecidableEq

end DocTags
