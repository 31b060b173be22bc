import DocTags.Record.Checked
import DocTags.Record.IntegerText

/-!
Checks of texts, flags and integers. Flags and integers are also read from texts and from numbers
that stand for them.
-/

namespace DocTags.Checked

def string : Json → Checked String
  | .text value => accept value
  | _ => issue .notText

/-! ### Flags -/

/-- Words for no, in lower case. -/
def noWords : List String := ["0", "off", "f", "false", "n", "no"]

/-- Words for yes, in lower case. -/
def yesWords : List String := ["1", "on", "t", "true", "y", "yes"]

/-- The flag that a text stands for, without regard to the case of ASCII letters. -/
def flagOfText (value : String) : Checked Bool :=
  let word := String.ofList (value.toList.map Char.toLower)
  if word ∈ yesWords then accept true
  else if word ∈ noWords then accept false
  else issue .unreadableFlag

/-- The first number too large for 64 bits with a sign. -/
def wordLimit : Int := 0x8000000000000000

/-- Whether a number fits into 64 bits with a sign. -/
def fitsWord (value : Int) : Bool := -wordLimit ≤ value && value < wordLimit

/-- The flag that an integer stands for. -/
def flagOfInt (value : Int) : Checked Bool :=
  if value = 1 then accept true
  else if value = 0 then accept false
  else if fitsWord value then issue .unreadableFlag
  else issue .notFlag

/-- Whether a rounded number lies strictly inside the range of 64 bits with a sign. -/
def insideWord (value : Int) : Bool := -wordLimit < value && value < wordLimit

def flag : Json → Checked Bool
  | .bool value => accept value
  | .text value => flagOfText value
  | .int value => flagOfInt value
  | .real value =>
    match value.rounded with
    | .whole whole => if insideWord whole then flagOfInt whole else issue .notFlag
    | _ => issue .notFlag
  | _ => issue .notFlag

/-! ### Integers -/

def integerOfText (value : String) : Checked Int :=
  if IntegerText.isOversized value.toList then issue .oversizedInteger
  else
    match IntegerText.read? value.toList with
    | some number => accept number
    | none => issue .unreadableInteger

def integer : Json → Checked Int
  | .int value => accept value
  | .bool value => accept (if value then 1 else 0)
  | .text value => integerOfText value
  | .real value =>
    match value.rounded with
    | .whole whole => if insideWord whole then accept whole else issue .oversizedInteger
    | .fraction => issue .fractionalInteger
    | .notFinite => issue .infiniteInteger
  | _ => issue .notInteger

end DocTags.Checked
