import Toolbench.Number.Binary64

/-! Decimal fractions `digits * 10 ^ exponent` and the binary number nearest to one. An exponent
far from the range of the binary numbers is settled without writing out its power of ten. -/

namespace Toolbench

structure Decimal where
  digits : Nat
  exponent : Int
deriving DecidableEq, Repr

namespace Decimal

/-- The numerator and the denominator of a decimal fraction. -/
def ratio (d : Decimal) : Nat × Nat :=
  match d.exponent with
  | .ofNat e => (d.digits * Nat.pow 10 e, 1)
  | .negSucc e => (d.digits, Nat.pow 10 (e + 1))

/-- The binary number nearest to a decimal fraction with the given sign. A fraction of `b` binary
digits is below `10 ^ (exponent + b)`, which is nearer to zero than to any other number when it
is at most `10 ^ -330`; from `10 ^ 311` on a fraction is beyond the finite numbers. -/
def toBinary64 (negative : Bool) (d : Decimal) : Binary64 :=
  if d.digits = 0 ∨ d.exponent + (d.digits.log2 + 1 : Nat) ≤ -330 then .zero negative
  else if 310 < d.exponent then .infinite negative
  else .ofQuotient negative d.ratio.1 d.ratio.2

end Decimal

end Toolbench
