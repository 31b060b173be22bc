import DocTags.Record.Issue

/-!
The settings shared by everything that reads tags or writes documents, and the ways in which
loading them can fail.
-/

namespace DocTags

structure Settings where
  /-- Type names that never refer to a model. -/
  primitiveTypes : List String
  /-- Media types that an operation is documented to produce. -/
  produces : List String
  /-- What a line break in notes is replaced by. -/
  notesLineBreak : String
  /-- The values of the format parameter. -/
  formatValues : List String
deriving Repr, DecidableEq

namespace Settings

/-- The settings in force when nothing is configured. -/
def standard : Settings where
  primitiveTypes :=
    ["string", "integer", "number", "boolean", "array", "object", "file", "long", "float",
     "double", "byte", "date", "void"]
  produces := ["application/json", "application/xml"]
  notesLineBreak := "<br>"
  formatValues := ["json", "xml"]

/-- The settings by name. -/
inductive Field where
  | primitiveTypes
  | produces
  | notesLineBreak
  | formatValues
deriving Repr, DecidableEq

def Field.name : Field → String
  | .primitiveTypes => "primitive_types"
  | .produces => "produces"
  | .notesLineBreak => "notes_line_break"
  | .formatValues => "format_values"

/-- The variable that gives a setting, in lower case. -/
def Field.variableName (field : Field) : String := "swagger_tags_" ++ field.name

/-- Where a setting was given. -/
inductive Source where
  | environment
  | dotenv
deriving Repr, DecidableEq

def Source.name : Source → String
  | .environment => "EnvSettingsSource"
  | .dotenv => "DotEnvSettingsSource"

inductive Fault where
  /-- The text given for a list is not JSON. -/
  | unreadable (field : Field) (source : Source)
  /-- Values of the wrong shape. -/
  | invalid (issues : List Issue)
deriving Repr, DecidableEq

/-- The report on a text that is not JSON. -/
def unreadableMessage (field : Field) (source : Source) : String :=
  "error parsing value for field \"" ++ field.name ++ "\" from source \"" ++ source.name ++ "\""

/-- A fault as issues of the value whose check needed the settings. -/
def Fault.issues : Fault → List Issue
  | .unreadable _ _ => [⟨[], .failedRule⟩]
  | .invalid issues => issues

abbrev Loaded := Except Fault Settings

end Settings

end DocTags
