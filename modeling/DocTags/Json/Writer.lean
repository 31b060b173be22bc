import DocTags.Json.Basic
import DocTags.Text.Quoted

/-!
Writing a JSON value as text, on one line and without blanks. Quotes, backslashes and control
characters are escaped; all other characters stand for themselves.
-/

namespace DocTags.Json

/-- A character inside a quoted text. -/
def writeChar (c : Char) : List Char :=
  if c == '"' || c == '\\' then ['\\', c]
  else if c.toNat < 0x20 then '\\' :: 'u' :: Text.hexadecimal 4 c.toNat
  else [c]

def writeText (s : String) : List Char := '"' :: s.toList.flatMap writeChar ++ ['"']

def writeReal : RealNumeral → List Char
  | .decimal mantissa exponent => (toString mantissa).toList ++ 'e' :: (toString exponent).toList
  | .infinite negative => (if negative then "-Infinity" else "Infinity").toList
  | .undefined => "NaN".toList

/-- Texts with a comma between each two. -/
def joinCommas : List (List Char) → List Char
  | [] => []
  | [only] => only
  | first :: rest => first ++ ',' :: joinCommas rest

mutual

def write : Json → List Char
  | .null => "null".toList
  | .bool value => (if value then "true" else "false").toList
  | .int value => (toString value).toList
  | .real value => writeReal value
  | .text value => writeText value
  | .array items => '[' :: joinCommas (writeItems items) ++ [']']
  | .object fields => '{' :: joinCommas (writeFields fields) ++ ['}']

def writeItems : List Json → List (List Char)
  | [] => []
  | item :: rest => write item :: writeItems rest

def writeFields : List (String × Json) → List (List Char)
  | [] => []
  | (name, value) :: rest => (writeText name ++ ':' :: write value) :: writeFields rest

end

def render (value : Json) : String := String.ofList (write value)

end DocTags.Json
