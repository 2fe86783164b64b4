/-! Binary floating-point numbers of 64 bits. A finite number is a sign and the rank of its
magnitude among all finite magnitudes in increasing order, which is also its bit pattern without
the sign. Magnitudes are whole multiples of the least positive one, the unit `2 ^ -1074`, so
every operation is exact on counts of units and rounds once at the end, to the nearest number
and on a tie to the one of even rank. -/

namespace Toolbench

/-- The number of finite magnitudes. -/
def Binary64.finiteCount : Nat := 2047 * Nat.pow 2 52

/-- The number of units in one. -/
def Binary64.unitsInOne : Nat := Nat.pow 2 1074

inductive Binary64 where
  | nan
  | infinite (negative : Bool)
  | finite (negative : Bool) (rank : Fin Binary64.finiteCount)
deriving DecidableEq, Repr

/-- The whole number nearest to a quotient, the even one on a tie. -/
def roundQuotient (num den : Nat) : Nat :=
  let whole := num / den
  let twice := 2 * (num % den)
  if twice < den then whole
  else if den < twice then whole + 1
  else whole + whole % 2

namespace Binary64

/-- The units in the magnitude of a rank. Ranks step by one unit up to `2 ^ 53`, and after that
the step doubles with every `2 ^ 52` ranks. -/
def unitsOfRank (rank : Nat) : Nat :=
  let binade := rank / Nat.pow 2 52
  if binade = 0 then rank
  else (Nat.pow 2 52 + rank % Nat.pow 2 52) * Nat.pow 2 (binade - 1)

/-- The rank whose magnitude is nearest to a quotient of units, were there no greatest one. -/
def nearestRank (num den : Nat) : Nat :=
  let scale := (num / den).log2 - 52
  scale * Nat.pow 2 52 + roundQuotient num (den * Nat.pow 2 scale)

/-- The number nearest to a quotient of units with the given sign. -/
def ofUnits (negative : Bool) (num den : Nat) : Binary64 :=
  if h : nearestRank num den < finiteCount then .finite negative ⟨nearestRank num den, h⟩
  else .infinite negative

/-- The number nearest to a quotient with the given sign. -/
def ofQuotient (negative : Bool) (num den : Nat) : Binary64 :=
  ofUnits negative (num * unitsInOne) den

def zero (negative : Bool) : Binary64 :=
  .finite negative ⟨0, by decide⟩

/-- The number nearest to an integer. -/
def ofInt (n : Int) : Binary64 :=
  ofQuotient (n < 0) n.natAbs 1

def IsFinite : Binary64 → Prop
  | .finite _ _ => True
  | _ => False

instance : DecidablePred IsFinite
  | .nan => inferInstanceAs (Decidable False)
  | .infinite _ => inferInstanceAs (Decidable False)
  | .finite _ _ => inferInstanceAs (Decidable True)

/-- The signed count of units of a finite number. -/
def units? : Binary64 → Option Int
  | .finite false rank => some (unitsOfRank rank)
  | .finite true rank => some (-(unitsOfRank rank : Int))
  | _ => none

def isNegative : Binary64 → Bool
  | .nan => false
  | .infinite negative | .finite negative _ => negative

def IsZero (x : Binary64) : Prop := x.units? = some 0

instance : DecidablePred IsZero := fun x => inferInstanceAs (Decidable (x.units? = some 0))

/-- The sum; opposite infinities have none, and a sum of zero is negative only when both terms
are. -/
def add : Binary64 → Binary64 → Binary64
  | .nan, _ | _, .nan => .nan
  | .infinite s, .infinite t => if s = t then .infinite s else .nan
  | .infinite s, .finite .. | .finite .., .infinite s => .infinite s
  | .finite s a, .finite t b =>
    let term (negative : Bool) (rank : Nat) : Int :=
      if negative then -(unitsOfRank rank : Int) else unitsOfRank rank
    let sum := term s a + term t b
    if sum = 0 then zero (s && t) else ofUnits (sum < 0) sum.natAbs 1

/-- The product; zero times an infinity has none. -/
def mul : Binary64 → Binary64 → Binary64
  | .nan, _ | _, .nan => .nan
  | .infinite s, .infinite t => .infinite (s != t)
  | .infinite s, .finite t rank | .finite s rank, .infinite t =>
    if rank.val = 0 then .nan else .infinite (s != t)
  | .finite s a, .finite t b =>
    ofUnits (s != t) (unitsOfRank a * unitsOfRank b) unitsInOne

/-- The quotient by a divisor that is not zero; two infinities have none. -/
def div : Binary64 → Binary64 → Binary64
  | .nan, _ | _, .nan => .nan
  | .infinite _, .infinite _ => .nan
  | .infinite s, .finite t _ => .infinite (s != t)
  | .finite s _, .infinite t => zero (s != t)
  | .finite s a, .finite t b => ofQuotient (s != t) (unitsOfRank a) (unitsOfRank b)

end Binary64

end Toolbench
