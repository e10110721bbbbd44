import AwkEdit.Decimal

/-!
# Decimal numbers as messages show them

A number is shown by the fewest digits that lie nearest to its binary value among all binary values. They are looked for on the
grids of multiples of a power of ten, from coarse to fine: on the first grid that has such a number, the neighbour of the value that
is nearer to it is taken. Numbers of usual size are written with a decimal point, others with an exponent.
-/

namespace AwkEdit

namespace Binary

open Decimal

/-- The multiples of a power of ten around a positive binary value, the nearer one first; of two equally near ones the even one. -/
def neighbours (v : Binary) (grid : Int) : List Nat :=
  let (a, b) := shifted 2 v.significand v.exponent
  let n := if grid ≤ 0 then a * tenTo (-grid).toNat else a
  let d := if grid ≤ 0 then b else b * tenTo grid.toNat
  let low := n / d
  let twice := 2 * (n % d)
  if twice < d ∨ twice = d ∧ low % 2 = 0 then [low, low + 1] else [low + 1, low]

/-- The powers of ten of the grids that are looked at, from coarse to fine. -/
def grids : List Int := (List.range 660).map fun i : Nat => 310 - (i : Int)

/-- The digits that a positive binary value is shown by, and the power of ten of the last one. -/
def shortest (v : Binary) : Nat × Int :=
  let found := grids.findSome? fun grid =>
    ((neighbours v grid).find? fun n => n ≠ 0 && nearest? n grid == some v).map (·, grid)
  found.getD (0, 0)

end Binary

namespace Decimal

/-- Zeros. -/
def zeros (n : Int) : List Char := List.replicate n.toNat '0'

/-- Digits with a decimal point after `point` of them. -/
def pointed (digits : List Char) (point : Int) : List Char :=
  if point ≤ 0 then '0' :: '.' :: zeros (-point) ++ digits
  else if point < digits.length then digits.take point.toNat ++ '.' :: digits.drop point.toNat
  else digits ++ zeros (point - digits.length) ++ ['.', '0']

/-- Digits with a decimal point after the first and an exponent of at least two digits. -/
def scientific (digits : List Char) (exponent : Int) : List Char :=
  let fraction := digits.drop 1
  let power := (toString exponent.natAbs).toList
  digits.take 1 ++ (if fraction.isEmpty then [] else '.' :: fraction) ++
    ['e', if exponent < 0 then '-' else '+'] ++ zeros (2 - power.length) ++ power

/-- The digits of a number with the power of ten of the last one, as messages show it. -/
def layout (digits : Nat) (exponent : Int) : List Char :=
  let ds := (toString digits).toList
  let point := ds.length + exponent
  if -4 < point ∧ point ≤ 16 then pointed ds point else scientific ds (point - 1)

/-- A number as messages show it, without its sign. -/
def unsignedShown (d : Decimal) : List Char :=
  match d, d.binary? with
  | undefined, _ => "nan".toList
  | _, none => "inf".toList
  | _, some v => if v.significand = 0 then "0.0".toList else layout v.shortest.1 v.shortest.2

/-- A number as messages show it. -/
def shown (d : Decimal) : String := String.ofList (if d.isNegative then '-' :: d.unsignedShown else d.unsignedShown)

end Decimal

end AwkEdit
