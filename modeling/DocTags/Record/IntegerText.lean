import DocTags.Json.Token
import DocTags.Text.Numeral

/-!
Integers in checked texts. Around a plain JSON integer a text may have outer blanks, a plus sign,
leading zeros, single underscores between characters, and a point that only zeros follow. Among
leading zeros underscores may stand at will, and a minus sign may end them. An integer that starts
the text and has too many digits is refused as too long, whatever follows it.
-/

namespace DocTags.IntegerText

/-- What stands from the first character on that is neither a zero nor an underscore; `last` is the
character before. A text of nothing else ends with its last character, and a point keeps the
character before it. -/
def afterZeros (last : Char) : List Char → Option (List Char)
  | [] => some [last]
  | c :: rest =>
    if c == '0' || c == '_' then afterZeros c rest
    else if c.isDigit || c == '-' then some (c :: rest)
    else if c == '.' then some (last :: c :: rest)
    else none

/-- Digits without leading zeros. A text that starts with anything but a digit is refused. -/
def dropLeadingZeros : List Char → Option (List Char)
  | [] => none
  | c :: rest =>
    if c == '0' then afterZeros c rest
    else if c.isDigit then some (c :: rest)
    else none

/-- Drops a point that one zero or more, and nothing else, follow. -/
def dropZeroPlaces (digits : List Char) : List Char :=
  match digits.dropWhile (· != '.') with
  | '.' :: places =>
    if !places.isEmpty && places.all (· == '0') then digits.takeWhile (· != '.') else digits
  | _ => digits

/-- Whether two underscores stand side by side. -/
def hasDoubleUnderscore : List Char → Bool
  | '_' :: '_' :: _ => true
  | _ :: rest => hasDoubleUnderscore rest
  | [] => false

/-- Drops underscores, provided that each stands alone between two other characters. -/
def dropUnderscores (digits : List Char) : Option (List Char) :=
  if digits.head? == some '_' || digits.getLast? == some '_' || hasDoubleUnderscore digits then none
  else some (digits.filter (· != '_'))

/-- The value of digits without needless zeros, not too many of them. -/
def readPlain? (digits : List Char) : Option Nat :=
  if digits.length ≤ Text.maxDigits then Json.readWholePart? digits else none

/-- The value of what follows the sign. -/
def readUnsigned? (text : List Char) : Option Int := do
  let digits ← dropLeadingZeros text
  let digits ← dropUnderscores (dropZeroPlaces digits)
  match digits with
  | '-' :: digits => (readPlain? digits).map fun size => -(size : Int)
  | digits => (readPlain? digits).map fun size => (size : Int)

/-- The value of what follows a minus sign, which allows no second one. -/
def readNegative? (text : List Char) : Option Int := do
  let digits ← dropLeadingZeros text
  let digits ← dropUnderscores (dropZeroPlaces digits)
  (readPlain? digits).map fun size => -(size : Int)

/-- The integer that a text without outer blanks stands for. -/
def readSigned? : List Char → Option Int
  | '-' :: text => readNegative? text
  | '+' :: text => readUnsigned? text
  | text => readUnsigned? text

/-- The integer that a text stands for. -/
def read? (text : List Char) : Option Int :=
  let body := text.dropWhile Text.isNumeralBlank
  readSigned? (body.reverse.dropWhile Text.isNumeralBlank).reverse

/-- Whether a text starts, after a minus sign if there is one, with an integer of too many
digits. -/
def isOversized (text : List Char) : Bool :=
  let digits := match text with
    | '-' :: rest => rest
    | _ => text
  digits.head? != some '0' && Text.maxDigits < (digits.takeWhile Char.isDigit).length

end DocTags.IntegerText
