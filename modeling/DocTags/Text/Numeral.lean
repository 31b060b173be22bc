import DocTags.Text.Blank
import DocTags.Text.DecimalDigit

/-!
Integers written by people: blanks around, a sign, digits of any script, and single underscores
between digits. Numerals of more than `maxDigits` digits are not read.
-/

namespace DocTags.Text

/-- The blanks allowed around a numeral: every blank but the information separators. -/
def isNumeralBlank (c : Char) : Bool :=
  isBlank c && !(0x1C ≤ c.toNat && c.toNat ≤ 0x1F)

/-- The most digits that a numeral may have, leading zeros included. -/
def maxDigits : Nat := 4300

/-- The values of the digits of a text made of digits and single underscores between them. -/
def digitValues? : List Char → Option (List Nat)
  | [] => none
  | [c] => (digitValue? c).map fun d => [d]
  | c :: '_' :: rest =>
    match digitValue? c, digitValues? rest with
    | some d, some ds => some (d :: ds)
    | _, _ => none
  | c :: rest =>
    match digitValue? c, digitValues? rest with
    | some d, some ds => some (d :: ds)
    | _, _ => none

/-- The number with the given decimal digits, most significant first. -/
def ofDigitValues (ds : List Nat) : Nat := ds.foldl (fun n d => 10 * n + d) 0

/-- The number that an unsigned numeral stands for. -/
def readNat? (cs : List Char) : Option Nat :=
  match digitValues? cs with
  | some ds => if ds.length ≤ maxDigits then some (ofDigitValues ds) else none
  | none => none

/-- The number that a signed numeral stands for. -/
def readSigned? : List Char → Option Int
  | '-' :: rest => (readNat? rest).map fun n => -(n : Int)
  | '+' :: rest => (readNat? rest).map fun n => (n : Int)
  | cs => (readNat? cs).map fun n => (n : Int)

/-- The number that a numeral with blanks around it stands for. -/
def readInt? (cs : List Char) : Option Int :=
  let body := cs.dropWhile isNumeralBlank
  readSigned? (body.reverse.dropWhile isNumeralBlank).reverse

end DocTags.Text
