import DocTags.Text.Blank
import DocTags.Text.Pieces

/-!
Name slots such as `status(required, body)`: a name, and perhaps options in parentheses.
-/

namespace DocTags

structure NameSlot where
  name : String
  options : List String
deriving Repr, DecidableEq

namespace NameSlot

def isParenthesis (c : Char) : Bool := c == '(' || c == ')'

/-- The options of a text that starts at the opening parenthesis and closes it: the pieces between
commas, trimmed, without the blank ones. Any other text has no options. -/
def readOptions : List Char → List (List Char)
  | '(' :: rest =>
    if rest.contains ')' then
      ((Text.pieces (· == ',') (rest.takeWhile (· != ')'))).map Text.trim).filter (!·.isEmpty)
    else []
  | _ => []

/-- The name before the first parenthesis, trimmed, and the options that follow it. -/
def read (raw : String) : NameSlot where
  name := String.ofList (Text.trim (raw.toList.takeWhile (!isParenthesis ·)))
  options := (readOptions (raw.toList.dropWhile (!isParenthesis ·))).map String.ofList

end NameSlot

end DocTags
