import DocTags.Fields
import DocTags.Json.RealNumeral

/-!
JSON values. Objects keep their fields in order, and whole numbers are kept apart from numbers
written with a point or an exponent.
-/

namespace DocTags

inductive Json where
  | null
  | bool (value : Bool)
  | int (value : Int)
  | real (value : RealNumeral)
  | text (value : String)
  | array (items : List Json)
  | object (fields : List (String × Json))
deriving Repr, Inhabited

namespace Json

def texts (values : List String) : Json := .array (values.map .text)

def textOrNull : Option String → Json
  | some value => .text value
  | none => .null

/-- The value under a name of an object; other values have no fields. -/
def get? : Json → String → Option Json
  | .object fields, name => Fields.get? fields name
  | _, _ => none

end Json

end DocTags
