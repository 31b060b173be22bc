/-!
Greedy matching that can give back. A reader takes as many characters of a class as there are and
hands them, with the rest of the text, to what follows; when that fails it gives the last one back
and tries again. The first success is the one with the longest run.
-/

namespace DocTags.Text

/-- Takes the longest run of `isMember` characters after which `next` succeeds. -/
def takeMost {α : Type} (isMember : Char → Bool) :
    List Char → (List Char → List Char → Option α) → Option α
  | [], next => next [] []
  | c :: rest, next =>
    if isMember c then
      (takeMost isMember rest fun run after => next (c :: run) after) <|> next [] (c :: rest)
    else next [] (c :: rest)

/-- Removes `start` from the start of a text, and gives nothing when it is not there. -/
def dropStart? : List Char → List Char → Option (List Char)
  | [], text => some text
  | _ :: _, [] => none
  | c :: start, d :: text => if c == d then dropStart? start text else none

/-- Takes `marker` if it is there and `next` succeeds after it; otherwise goes on without it. -/
def takeIfPresent {α : Type} (marker text : List Char) (next : Bool → List Char → Option α) :
    Option α :=
  match dropStart? marker text with
  | some after => next true after <|> next false text
  | none => next false text

end DocTags.Text
