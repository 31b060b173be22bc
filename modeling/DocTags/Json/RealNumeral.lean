/-!
Numbers written with a point or an exponent. Such a number stands for the nearest number with 53
significant binary digits, ties going to the even neighbour; `RealNumeral.rounded` says whether that
is a whole number, has a fraction, or lies outside the finite range.
-/

namespace DocTags

/-- A number as it is written: a decimal, or one of the values that are not finite. -/
inductive RealNumeral where
  /-- The number `mantissa * 10 ^ exponent`. -/
  | decimal (mantissa exponent : Int)
  | infinite (negative : Bool)
  | undefined
deriving Repr, DecidableEq

/-- What a number is once it is rounded to 53 significant binary digits. -/
inductive Rounded where
  | whole (value : Int)
  | fraction
  | notFinite
deriving Repr, DecidableEq

namespace RealNumeral

/-- The nearest whole number to `a / b`, a tie going to the even one. -/
def divideToNearest (a b : Nat) : Nat :=
  let quotient := a / b
  let twice := 2 * (a % b)
  if twice < b then quotient
  else if b < twice then quotient + 1
  else quotient + quotient % 2

def powerOfTwo (exponent : Nat) : Nat := Nat.pow 2 exponent

/-- The binary exponent of `a / b`: the greatest `k` with `2 ^ k ≤ a / b`. -/
def binaryExponent (a b : Nat) : Int :=
  let k : Int := (a.log2 : Int) - (b.log2 : Int)
  let reached := if 0 ≤ k then b * powerOfTwo k.toNat ≤ a else b ≤ a * powerOfTwo (-k).toNat
  if reached then k else k - 1

/-- Rounds the positive number `a / b` to 53 significant binary digits. -/
def roundQuotient (a b : Nat) : Rounded :=
  let unit := max (binaryExponent a b - 52) (-1074)
  if 0 ≤ unit then
    let value := divideToNearest a (b * powerOfTwo unit.toNat) * powerOfTwo unit.toNat
    if value < powerOfTwo 1024 then .whole value else .notFinite
  else
    let steps := powerOfTwo (-unit).toNat
    let value := divideToNearest (a * steps) b
    if value % steps = 0 then .whole ((value / steps : Nat) : Int) else .fraction

def negateRounded : Rounded → Rounded
  | .whole value => .whole (-value)
  | other => other

/-- A written number rounded to 53 significant binary digits. Numbers of `10 ^ 310` and more are
not finite and numbers under `10 ^ (-330)` are zero, so the powers of ten stay small. -/
def rounded : RealNumeral → Rounded
  | .decimal mantissa exponent =>
    let size := mantissa.natAbs
    let magnitude : Int := ((Nat.toDigits 10 size).length : Int) + exponent
    if size = 0 || magnitude < -330 then .whole 0
    else if 310 < magnitude then .notFinite
    else
      let positive :=
        if 0 ≤ exponent then roundQuotient (size * Nat.pow 10 exponent.toNat) 1
        else roundQuotient size (Nat.pow 10 (-exponent).toNat)
      if mantissa < 0 then negateRounded positive else positive
  | _ => .notFinite

end RealNumeral

end DocTags
