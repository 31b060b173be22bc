import DocTags.Failure
import DocTags.Grammar.ValueList
import DocTags.Text.Greedy
import DocTags.Text.Word

/-!
The shorthand that puts a parameter and its allowable values into one text:

    [String] sort_order(required) Orders widgets by field.
    [List] id
    [List] created_at

Every part takes as much as it can, and gives back only when no line break would be left for the
end of the first line.
-/

namespace DocTags

structure Shorthand where
  typeName : String
  name : String
  required : Bool
  description : String
  values : List String
deriving Repr, DecidableEq

namespace Shorthand

def requiredMark : List Char := "(required)".toList

/-- The description up to the end of its line, and the values after it. -/
def readLine (typeName name : List Char) (required : Bool) (text : List Char) : Option Shorthand :=
  match text.dropWhile (· != '\n') with
  | [] => none
  | _ :: values =>
    some
      { typeName := String.ofList typeName
        name := String.ofList name
        required
        description := String.ofList (Text.trim (text.takeWhile (· != '\n')))
        values := (ValueList.readChars values).map String.ofList }

/-- What follows the bracketed type. -/
def readAfterType (typeName text : List Char) : Option Shorthand :=
  Text.takeMost Text.isBlank text fun _ text =>
    Text.takeMost Text.isWord text fun name text =>
      Text.takeIfPresent requiredMark text fun required text =>
        Text.takeMost Text.isBlank text fun _ text =>
          readLine typeName name required text

/-- The parameter that a text stands for, and nothing when it does not follow the grammar. -/
def readChars? : List Char → Option Shorthand
  | '[' :: text =>
    match text.dropWhile Text.isWord with
    | ']' :: rest => readAfterType (text.takeWhile Text.isWord) rest
    | _ => none
  | _ => none

def read (text : String) : Except Failure Shorthand :=
  match readChars? text.toList with
  | some shorthand => .ok shorthand
  | none => .error (.ofCause (.shorthand text) (some "parameter_list"))

end Shorthand

end DocTags
