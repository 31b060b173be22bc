import DocTags.Json.Reader
import DocTags.Settings.Basic
import DocTags.Settings.Dotenv
import DocTags.Text.Lowercase

/-!
Loading settings. Each setting is looked for among the environment's entries, then in the
settings file, then in the standard settings; names are compared without regard to case. Lists are
given as JSON, and JSON null counts as not given. All texts of the environment are read before
those of the file, and the shape of the values is checked last, for all settings together.
-/

namespace DocTags.Settings

/-- What settings are loaded from. -/
structure Environment where
  entries : List (String × String)
  dotenv : Option String
deriving Repr, DecidableEq

/-- Variables by their names in lower case; of names that differ in case only the last counts. -/
def byLowerName (entries : Fields (Option String)) : Fields (Option String) :=
  Fields.ofList (entries.map fun entry => (Text.lowered entry.1, entry.2))

/-- What one source gives for each setting. -/
structure Given where
  primitiveTypes : Option Json
  produces : Option Json
  notesLineBreak : Option String
  formatValues : Option Json

def givenText (entries : Fields (Option String)) (field : Field) : Option String :=
  (entries.get? field.variableName).join

/-- The value that a source gives for a list. -/
def givenList (source : Source) (entries : Fields (Option String)) (field : Field) :
    Except Fault (Option Json) :=
  match givenText entries field with
  | none => .ok none
  | some text =>
    match Json.read? text with
    | none => .error (.unreadable field source)
    | some .null => .ok none
    | some value => .ok (some value)

/-- What a source gives, or the first list whose text is not JSON. -/
def givenBy (source : Source) (entries : Fields (Option String)) : Except Fault Given := do
  let named := byLowerName entries
  let primitiveTypes ← givenList source named .primitiveTypes
  let produces ← givenList source named .produces
  let formatValues ← givenList source named .formatValues
  return ⟨primitiveTypes, produces, givenText named .notesLineBreak, formatValues⟩

/-- The texts of an array, with an issue for every item that is not a text. -/
def textItems (position : Nat) : List Json → Validated (List String)
  | [] => .ok []
  | .text value :: rest => Validated.and (.ok (value :: ·)) (textItems (position + 1) rest)
  | _ :: rest =>
    Validated.and (.error [⟨[.index position], .notText⟩]) (textItems (position + 1) rest)

def listSetting (field : Field) (standard : List String) : Option Json → Validated (List String)
  | none => .ok standard
  | some (.array items) => (textItems 0 items).under (.field field.name)
  | some _ => (Validated.issue .notList).under (.field field.name)

/-- Settings from what the environment and, behind it, the settings file give. -/
def settle (first second : Given) : Validated Settings :=
  let given : Validated _ := .ok Settings.mk
  given
    |>.and (listSetting .primitiveTypes standard.primitiveTypes
        (first.primitiveTypes <|> second.primitiveTypes))
    |>.and (listSetting .produces standard.produces (first.produces <|> second.produces))
    |>.and (.ok ((first.notesLineBreak <|> second.notesLineBreak).getD standard.notesLineBreak))
    |>.and (listSetting .formatValues standard.formatValues
        (first.formatValues <|> second.formatValues))

def load (environment : Environment) : Loaded := do
  let first ← givenBy .environment
    (environment.entries.map fun entry => (entry.1, some entry.2))
  let second ← givenBy .dotenv ((environment.dotenv.map Dotenv.read).getD [])
  match settle first second with
  | .ok settings => .ok settings
  | .error issues => .error (.invalid issues)

end DocTags.Settings
