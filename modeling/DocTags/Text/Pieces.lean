/-!
Cutting a text into pieces, and replacing its line breaks. A cut removes the character it is made
at and nothing else, so a text with `n` cuts has `n + 1` pieces, some perhaps empty.
-/

namespace DocTags.Text

/-- The pieces of a text that is cut at every character satisfying `isCut`. -/
def pieces (isCut : Char → Bool) : List Char → List (List Char)
  | [] => [[]]
  | c :: rest =>
    if isCut c then [] :: pieces isCut rest
    else
      match pieces isCut rest with
      | [] => [[c]]
      | piece :: others => (c :: piece) :: others

/-- A string with every line break replaced by another text. -/
def replaceLineBreaks (lineBreak s : String) : String :=
  String.ofList (s.toList.flatMap fun c => if c == '\n' then lineBreak.toList else [c])

end DocTags.Text
