import Toolbench.Number.Decimal

/-! The shortest decimal fraction that reads back as a given magnitude. For each count of digits
from 1 to 17 the two neighbours of the magnitude on the grid of that many digits are tried; the
first grid with a neighbour that reads back wins, of two such neighbours the nearer, and on a tie
the even one. -/

namespace Toolbench.Binary64

/-- The position of the decimal point: a positive magnitude lies in `[10 ^ (p - 1), 10 ^ p)`. -/
def pointPosition (units : Nat) : Int :=
  ((Nat.toDigits 10 (units * Nat.pow 10 324 / unitsInOne)).length : Int) - 324

def ReadsBack (rank : Fin finiteCount) (d : Decimal) : Prop :=
  d.toBinary64 false = .finite false rank

instance (rank : Fin finiteCount) (d : Decimal) : Decidable (ReadsBack rank d) :=
  inferInstanceAs (Decidable (_ = _))

/-- The better of the two neighbours on the grid of multiples of `10 ^ exponent`, if one of them
reads back. -/
def neighbour? (rank : Fin finiteCount) (exponent : Int) : Option Decimal :=
  let scaled : Nat × Nat :=
    match exponent with
    | .ofNat e => (unitsOfRank rank, unitsInOne * Nat.pow 10 e)
    | .negSucc e => (unitsOfRank rank * Nat.pow 10 (e + 1), unitsInOne)
  let below : Decimal := ⟨scaled.1 / scaled.2, exponent⟩
  let above : Decimal := ⟨scaled.1 / scaled.2 + 1, exponent⟩
  if ReadsBack rank below then
    if ReadsBack rank above then
      some (if roundQuotient scaled.1 scaled.2 = below.digits then below else above)
    else some below
  else if ReadsBack rank above then some above
  else none

/-- The magnitude itself, written out: a unit is `5 ^ 1074 * 10 ^ -1074`. -/
def exactDecimal (rank : Fin finiteCount) : Decimal :=
  ⟨unitsOfRank rank * Nat.pow 5 1074, -1074⟩

/-- The shortest decimal fraction that reads back as the magnitude of a rank. -/
def shortest (rank : Fin finiteCount) : Decimal :=
  let point := pointPosition (unitsOfRank rank)
  ((List.range 17).findSome? fun count => neighbour? rank (point - (count + 1 : Nat))).getD
    (exactDecimal rank)

end Toolbench.Binary64
