import Toolbench.Number.Shortest

/-! How a floating-point number is written. A layout says where the decimal point may stand for
the number to be written out in full; outside that range the number is a decimal fraction with
one digit before the point and an exponent of ten. -/

namespace Toolbench

/-- Digits are written in full when the point stands at a position of the given range, counted
from before the first significant digit. -/
structure Layout where
  leastPoint : Int
  greatestPoint : Int
  exponentWidth : Nat

namespace Layout

/-- The digits in full: zeros fill the places up to the point, and at least one digit follows
it. -/
def inFull (digits : List Char) (point : Int) : List Char :=
  match point with
  | .ofNat 0 => '0' :: '.' :: digits
  | .negSucc n => '0' :: '.' :: List.replicate (n + 1) '0' ++ digits
  | .ofNat n =>
    if digits.length ≤ n then digits ++ List.replicate (n - digits.length) '0' ++ ['.', '0']
    else digits.take n ++ '.' :: digits.drop n

/-- One digit, the others after a point if there are any, and a signed exponent of ten. -/
def withExponent (layout : Layout) (digits : List Char) (exponent : Int) : List Char :=
  let power := Nat.toDigits 10 exponent.natAbs
  digits.take 1 ++ (if digits.length ≤ 1 then [] else '.' :: digits.drop 1) ++
    ['e', if exponent < 0 then '-' else '+'] ++
    List.replicate (layout.exponentWidth - power.length) '0' ++ power

/-- Digits without the zeros at their end. -/
def significant (digits : List Char) : List Char :=
  (digits.reverse.dropWhile (· = '0')).reverse

/-- The text of a decimal fraction. -/
def decimal (layout : Layout) (d : Decimal) : List Char :=
  let digits := Nat.toDigits 10 d.digits
  let point := (digits.length : Int) + d.exponent
  if d.digits = 0 then ['0', '.', '0']
  else if layout.leastPoint ≤ point ∧ point ≤ layout.greatestPoint then
    inFull (significant digits) point
  else layout.withExponent (significant digits) (point - 1)

/-- The text of a floating-point number by its shortest decimal fraction. -/
def write (layout : Layout) : Binary64 → List Char
  | .nan => "nan".toList
  | .infinite negative => (if negative then ['-'] else []) ++ "inf".toList
  | .finite negative rank =>
    (if negative then ['-'] else []) ++ layout.decimal (Binary64.shortest rank)

end Layout

end Toolbench
