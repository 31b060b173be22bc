import DocTags.Text.Blank

/-!
Lists of values in which every value follows the marker `[List]`.
-/

namespace DocTags.ValueList

/-- The pieces of a text that is cut at every `[List]`, from left to right. -/
def cutAtMarkers : List Char → List (List Char)
  | '[' :: 'L' :: 'i' :: 's' :: 't' :: ']' :: rest => [] :: cutAtMarkers rest
  | c :: rest =>
    match cutAtMarkers rest with
    | [] => [[c]]
    | piece :: others => (c :: piece) :: others
  | [] => [[]]

/-- The pieces between markers, trimmed, without the blank ones. -/
def readChars (values : List Char) : List (List Char) :=
  ((cutAtMarkers values).map Text.trim).filter (!·.isEmpty)

def read (values : String) : List String :=
  (readChars values.toList).map String.ofList

end DocTags.ValueList
