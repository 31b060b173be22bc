import DocTags.Json.Basic
import DocTags.Text.Numeral

/-!
The tokens of a JSON text. The scanner goes through the text once, one character at a time; a word
is any run of characters that is not punctuation, blank or a quoted text, and must be a literal or
a number.
-/

namespace DocTags.Json

inductive Token where
  | openArray
  | closeArray
  | openObject
  | closeObject
  | comma
  | colon
  | text (value : String)
  | scalar (value : Json)
deriving Repr

/-! ### Numbers and literals -/

/-- The value of a run of ASCII digits that is not empty. -/
def readDigits? (cs : List Char) : Option Nat :=
  if cs.isEmpty || !cs.all Char.isDigit then none
  else some (cs.foldl (fun n c => 10 * n + (c.toNat - 0x30)) 0)

/-- The digits before the point: a single zero, or digits that start with another one. -/
def readWholePart? : List Char → Option Nat
  | ['0'] => some 0
  | '0' :: _ => none
  | cs => readDigits? cs

/-- The exponent after its letter, with or without a sign. -/
def readExponent? : List Char → Option Int
  | '-' :: cs => (readDigits? cs).map fun n => -(n : Int)
  | '+' :: cs => (readDigits? cs).map fun n => (n : Int)
  | cs => (readDigits? cs).map fun n => (n : Int)

/-- Cuts a text before the first character satisfying `isCut`. -/
def cutBefore (isCut : Char → Bool) (cs : List Char) : List Char × List Char :=
  (cs.takeWhile (!isCut ·), cs.dropWhile (!isCut ·))

/-- A number without its sign: whole, or with a point, an exponent or both. -/
def readUnsigned? (cs : List Char) : Option Json :=
  let (decimals, exponentPart) := cutBefore (fun c => c == 'e' || c == 'E') cs
  let (wholePart, pointPart) := cutBefore (· == '.') decimals
  match pointPart, exponentPart with
  | [], [] =>
    if wholePart.length ≤ Text.maxDigits then (readWholePart? wholePart).map fun n => .int n
    else none
  | _, _ => do
    let whole ← readWholePart? wholePart
    let places := pointPart.drop 1
    let fraction ← if pointPart.isEmpty then some 0 else readDigits? places
    let exponent ← if exponentPart.isEmpty then some 0 else readExponent? (exponentPart.drop 1)
    let mantissa := whole * Nat.pow 10 places.length + fraction
    return .real (.decimal mantissa (exponent - places.length))

def negate : Json → Json
  | .int n => .int (-n)
  | .real (.decimal mantissa exponent) => .real (.decimal (-mantissa) exponent)
  | .real (.infinite negative) => .real (.infinite (!negative))
  | other => other

def readWord? (cs : List Char) : Option Json :=
  match String.ofList cs with
  | "null" => some .null
  | "true" => some (.bool true)
  | "false" => some (.bool false)
  | "NaN" => some (.real .undefined)
  | "Infinity" => some (.real (.infinite false))
  | "-Infinity" => some (.real (.infinite true))
  | _ =>
    match cs with
    | '-' :: rest => (readUnsigned? rest).map negate
    | _ => readUnsigned? cs

/-! ### Quoted text -/

/-- A quoted text part way through: the characters read, last first, and the first half of a
surrogate pair that waits for its second. -/
structure OpenText where
  read : List Char
  waiting : Option Nat

namespace OpenText

/-- The characters read, with a half that found no partner replaced by the replacement character. -/
def settled (text : OpenText) : List Char :=
  match text.waiting with
  | some _ => Char.ofNat 0xFFFD :: text.read
  | none => text.read

def push (text : OpenText) (c : Char) : OpenText := ⟨c :: text.settled, none⟩

/-- Adds a code unit, joining two halves of a surrogate pair. -/
def pushUnit (text : OpenText) (unit : Nat) : OpenText :=
  if 0xD800 ≤ unit && unit < 0xDC00 then ⟨text.settled, some unit⟩
  else if 0xDC00 ≤ unit && unit < 0xE000 then
    match text.waiting with
    | some high =>
      ⟨Char.ofNat (0x10000 + (high - 0xD800) * 0x400 + (unit - 0xDC00)) :: text.read, none⟩
    | none => text.push (Char.ofNat 0xFFFD)
  else text.push (Char.ofNat unit)

def close (text : OpenText) : String := String.ofList text.settled.reverse

end OpenText

/-- The character that a one-letter escape stands for. -/
def escaped? : Char → Option Char
  | '"' => some '"'
  | '\\' => some '\\'
  | '/' => some '/'
  | 'b' => some (Char.ofNat 8)
  | 'f' => some (Char.ofNat 12)
  | 'n' => some '\n'
  | 'r' => some '\r'
  | 't' => some '\t'
  | _ => none

def hexValue? (c : Char) : Option Nat :=
  if c.isDigit then some (c.toNat - 0x30)
  else if 'a' ≤ c && c ≤ 'f' then some (c.toNat - 0x57)
  else if 'A' ≤ c && c ≤ 'F' then some (c.toNat - 0x37)
  else none

/-! ### The scanner -/

inductive Place where
  | between
  | inWord (read : List Char)
  | inText (text : OpenText)
  | afterBackslash (text : OpenText)
  | inUnit (text : OpenText) (unit digits : Nat)

/-- The scanner: the tokens found, last first, and where it stands. -/
structure Scanner where
  found : List Token
  place : Place

namespace Scanner

/-- Adds a token and stands between tokens again. -/
def emit (s : Scanner) (token : Token) : Scanner := ⟨token :: s.found, .between⟩

/-- Reads a character that follows a finished token. -/
def startToken (s : Scanner) (c : Char) : Scanner :=
  match c with
  | '[' => s.emit .openArray
  | ']' => s.emit .closeArray
  | '{' => s.emit .openObject
  | '}' => s.emit .closeObject
  | ',' => s.emit .comma
  | ':' => s.emit .colon
  | '"' => ⟨s.found, .inText ⟨[], none⟩⟩
  | c =>
    if c == ' ' || c == '\t' || c == '\n' || c == '\r' then ⟨s.found, .between⟩
    else ⟨s.found, .inWord [c]⟩

def endsWord (c : Char) : Bool :=
  c == '[' || c == ']' || c == '{' || c == '}' || c == ',' || c == ':' || c == '"' ||
    c == ' ' || c == '\t' || c == '\n' || c == '\r'

def step (s : Scanner) (c : Char) : Option Scanner :=
  match s.place with
  | .between => some (s.startToken c)
  | .inWord read =>
    if endsWord c then
      (readWord? read.reverse).map fun value => (s.emit (.scalar value)).startToken c
    else some ⟨s.found, .inWord (c :: read)⟩
  | .inText opened =>
    if c == '"' then some (s.emit (.text opened.close))
    else if c == '\\' then some ⟨s.found, .afterBackslash opened⟩
    else if c.toNat < 0x20 then none
    else some ⟨s.found, .inText (opened.push c)⟩
  | .afterBackslash opened =>
    if c == 'u' then some ⟨s.found, .inUnit opened 0 0⟩
    else (escaped? c).map fun value => ⟨s.found, .inText (opened.push value)⟩
  | .inUnit opened unit digits =>
    (hexValue? c).map fun value =>
      if digits = 3 then ⟨s.found, .inText (opened.pushUnit (16 * unit + value))⟩
      else ⟨s.found, .inUnit opened (16 * unit + value) (digits + 1)⟩

def finish (s : Scanner) : Option (List Token) :=
  match s.place with
  | .between => some s.found.reverse
  | .inWord read => (readWord? read.reverse).map fun value => (.scalar value :: s.found).reverse
  | _ => none

end Scanner

def tokens? (cs : List Char) : Option (List Token) :=
  (cs.foldlM Scanner.step ⟨[], .between⟩).bind Scanner.finish

end DocTags.Json
