/-!
Path templates such as `/accounts/{account_id}.{format_type}`. A placeholder starts at an opening
brace, has at least one character and ends at the next closing brace, so a second opening brace
belongs to the name.
-/

namespace DocTags.PathTemplate

/-- The placeholder for the response format, which is documented apart from the others. -/
def formatName : String := "format_type"

/-- The names between braces. The first argument is the name under way, last character first, or
nothing outside braces. -/
def scan : Option (List Char) → List Char → List (List Char)
  | _, [] => []
  | none, c :: rest => scan (if c = '{' then some [] else none) rest
  | some name, c :: rest =>
    if c = '}' then
      if name.isEmpty then scan none rest else name.reverse :: scan none rest
    else scan (some (c :: name)) rest

/-- The names of the placeholders of a path in order, without the response format. -/
def placeholders (path : String) : List String :=
  ((scan none path.toList).map String.ofList).filter (· != formatName)

end DocTags.PathTemplate
