/-!
# Decimal numbers

A number with a fraction or an exponent is kept as it is written. It is used through the nearest value in binary with 53 digits, as
floating point numbers are: `Decimal.binary?` is that value, and `Decimal.whole` says whether it is an integer, and which. A tie goes
to the even neighbour.
-/

namespace AwkEdit

/-- A number written with a fraction or an exponent, that is `digits * 10 ^ exponent` after a sign, or the name of a value beyond
numbers. -/
inductive Decimal where
  | finite (negative : Bool) (digits : Nat) (exponent : Int)
  | infinite (negative : Bool)
  | undefined
  deriving DecidableEq, Repr

/-- What the nearest binary value of a number is. -/
inductive Whole where
  | integer (value : Int)
  | fraction
  | boundless
  deriving DecidableEq, Repr

/-- A binary value, that is `significand * 2 ^ exponent`. -/
structure Binary where
  significand : Nat
  exponent : Int
  deriving DecidableEq, Repr

namespace Decimal

/-- A power of two. -/
def twoTo (n : Nat) : Nat := Nat.pow 2 n

/-- A power of ten. -/
def tenTo (n : Nat) : Nat := Nat.pow 10 n

/-- The quotient of two numbers rounded to the nearest integer, a tie to the even one. -/
def roundQuotient (a b : Nat) : Nat :=
  let q := a / b
  let twice := 2 * (a % b)
  if twice < b then q else if b < twice then q + 1 else q + q % 2

/-- The exponent of two of the last of the 53 binary digits of a positive quotient; small numbers have fewer digits. -/
def unitExponent (a b : Nat) : Int :=
  let guess : Int := (a.log2 : Int) - b.log2
  let below := if 0 ≤ guess then a < b * twoTo guess.toNat else a * twoTo (-guess).toNat < b
  max ((if below then guess - 1 else guess) - 52) (-1074)

/-- The quotient of a positive number and a power of a base as a fraction. -/
def shifted (base n : Nat) (exponent : Int) : Nat × Nat :=
  if 0 ≤ exponent then (n * Nat.pow base exponent.toNat, 1) else (n, Nat.pow base (-exponent).toNat)

end Decimal

namespace Binary

open Decimal

/-- The largest exponent of a binary value. -/
def maxExponent : Int := 971

/-- The nearest binary value of a positive quotient, unless it is too large. A significand that is rounded up to one digit more is
halved. -/
def ofQuotient? (a b : Nat) : Option Binary :=
  let e := unitExponent a b
  let m := if 0 ≤ e then roundQuotient a (b * twoTo e.toNat) else roundQuotient (a * twoTo (-e).toNat) b
  let nearest : Binary := if m = twoTo 53 then ⟨twoTo 52, e + 1⟩ else ⟨m, e⟩
  if nearest.exponent ≤ maxExponent then some nearest else none

/-- The integer that a binary value is, if it is one. -/
def whole? (b : Binary) : Option Nat :=
  if 0 ≤ b.exponent then some (b.significand * twoTo b.exponent.toNat)
  else if b.significand % twoTo (-b.exponent).toNat = 0 then some (b.significand / twoTo (-b.exponent).toNat)
  else none

end Binary

namespace Decimal

/-- The nearest binary value of a number without a sign, unless it is too large. Exponents beyond those of binary values are cut
off before powers are taken. -/
def nearest? (digits : Nat) (exponent : Int) : Option Binary :=
  if digits = 0 ∨ exponent + (digits.log2 : Int) < -1200 then some ⟨0, 0⟩
  else if 400 < exponent then none
  else
    let (a, b) := shifted 10 digits exponent
    Binary.ofQuotient? a b

/-- The nearest binary value of a number without its sign, unless it is beyond binary values. -/
def binary? : Decimal → Option Binary
  | finite _ digits exponent => nearest? digits exponent
  | infinite _ | undefined => none

/-- Whether a number has a minus sign. -/
def isNegative : Decimal → Bool
  | finite negative _ _ | infinite negative => negative
  | undefined => false

/-- What the nearest binary value of a number is. -/
def whole (d : Decimal) : Whole :=
  match d.binary? with
  | none => .boundless
  | some b =>
    match b.whole? with
    | some n => .integer (if d.isNegative then -n else n)
    | none => .fraction

end Decimal

end AwkEdit
