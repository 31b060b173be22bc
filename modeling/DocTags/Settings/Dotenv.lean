import DocTags.Fields
import DocTags.Text.Blank

/-!
Settings files: one `NAME=value` a line, perhaps after `export`. Blank lines and lines starting with
`#` say nothing. Blanks around the name and around a plain value are dropped, a plain value ends
before a `#` that follows a blank, and a value in single quotes is taken as it stands up to the
closing quote, across line ends; a backslash keeps the character after it from closing. A line of
any other form, one with a quote that never closes among them, is passed over. The last of several
values for one name counts.
-/

namespace DocTags.Settings.Dotenv

open Text

/-- A text in which every line ends with a line feed alone. -/
def unifyLineEnds : List Char → List Char
  | '\r' :: '\n' :: rest => '\n' :: unifyLineEnds rest
  | '\r' :: rest => '\n' :: unifyLineEnds rest
  | c :: rest => c :: unifyLineEnds rest
  | [] => []

/-- Whether the quote that was opened before a text is closed in it. -/
def closesQuote : List Char → Bool
  | '\\' :: _ :: rest => closesQuote rest
  | '\'' :: _ => true
  | _ :: rest => closesQuote rest
  | [] => false

/-- Where the reader stands. Texts under way are held last character first. -/
inductive Place where
  | lineStart
  | passedOver
  | inName (name : List Char) (exported : Bool)
  | afterName (name : List Char) (exported : Bool)
  /-- After the equals sign, with or without a blank since. -/
  | beforeValue (name : List Char) (spaced : Bool)
  | inValue (name value : List Char)
  /-- Inside quotes, with or without a backslash just before. -/
  | inQuotes (name value : List Char) (escaped : Bool)
  | afterQuotes (name value : List Char)

/-- The reader: the values found so far, and where it stands. A name without a value has none. -/
structure Reader where
  found : Fields (Option String)
  place : Place

/-- What stands before the first blank that a `#` follows. -/
def beforeComment : List Char → List Char
  | c :: '#' :: rest => if isBlank c then [] else c :: beforeComment ('#' :: rest)
  | c :: rest => c :: beforeComment rest
  | [] => []

/-- A plain value without a comment and without blanks at its end. -/
def plainValue (value : List Char) : List Char := trimEnd (beforeComment value)

/-- A quoted value with escaped quotes and backslashes put back. -/
def quotedValue : List Char → List Char
  | '\\' :: '\\' :: rest => '\\' :: quotedValue rest
  | '\\' :: '\'' :: rest => '\'' :: quotedValue rest
  | c :: rest => c :: quotedValue rest
  | [] => []

namespace Reader

def goTo (r : Reader) (place : Place) : Reader := ⟨r.found, place⟩

def give (r : Reader) (name : List Char) (value : Option (List Char)) : Reader :=
  ⟨r.found.put (String.ofList name.reverse) (value.map String.ofList), .lineStart⟩

/-- What a line end means where the reader stands. -/
def endLine (r : Reader) : Reader :=
  match r.place with
  | .inName name _ => r.give name none
  | .afterName name _ => r.give name none
  | .beforeValue name _ => r.give name (some [])
  | .inValue name value => r.give name (some (plainValue value.reverse))
  | .afterQuotes name value => r.give name (some (quotedValue value.reverse))
  | _ => r.goTo .lineStart

/-- Reads one character, with the text after it in sight. -/
def step (r : Reader) (c : Char) (rest : List Char) : Reader :=
  match r.place with
  | .inQuotes name value escaped =>
    if c == '\'' && !escaped then r.goTo (.afterQuotes name value)
    else r.goTo (.inQuotes name (c :: value) (c == '\\' && !escaped))
  | place =>
    if c == '\n' then r.endLine
    else
      match place with
      | .lineStart =>
        if isBlank c then r
        else if c == '#' || c == '=' then r.goTo .passedOver
        else r.goTo (.inName [c] false)
      | .inName name exported =>
        if c == '=' then r.goTo (.beforeValue name false)
        else if c == '#' then (r.give name none).goTo .passedOver
        else if isBlank c then r.goTo (.afterName name exported)
        else r.goTo (.inName (c :: name) exported)
      | .afterName name exported =>
        if isBlank c then r
        else if name.reverse == "export".toList && !exported then
          if c == '#' || c == '=' then r.goTo .passedOver else r.goTo (.inName [c] true)
        else if c == '=' then r.goTo (.beforeValue name false)
        else if c == '#' then (r.give name none).goTo .passedOver
        else r.goTo .passedOver
      | .beforeValue name spaced =>
        if isBlank c then r.goTo (.beforeValue name true)
        else if c == '\'' then
          if closesQuote rest then r.goTo (.inQuotes name [] false) else r.goTo .passedOver
        else if c == '#' && spaced then (r.give name (some [])).goTo .passedOver
        else r.goTo (.inValue name [c])
      | .inValue name value => r.goTo (.inValue name (c :: value))
      | .afterQuotes name value =>
        if isBlank c then r
        else if c == '#' then (r.give name (some (quotedValue value.reverse))).goTo .passedOver
        else r.goTo .passedOver
      | other => r.goTo other

/-- Reads a text to its end. -/
def run (r : Reader) : List Char → Reader
  | [] => r.endLine
  | c :: rest => (r.step c rest).run rest

end Reader

/-- The values that the text of a settings file gives. -/
def read (text : String) : Fields (Option String) :=
  (Reader.run ⟨[], .lineStart⟩ (unifyLineEnds text.toList)).found

end DocTags.Settings.Dotenv
