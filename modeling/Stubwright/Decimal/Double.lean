/-!
Double precision numbers as exact objects. The finite magnitudes are counted from zero upwards, so
the neighbours of a number are its rank plus and minus one, and rounding is a question about
natural numbers: every magnitude is a whole multiple of the smallest positive one, `2 ^ (-1074)`.
-/

namespace Stubwright

-- Powers and sums are those of the core library, whatever algebra is loaded beside them.
attribute [scoped instance (2000)] instPowNat Zero.ofOfNat0

namespace Decimal

/-- Distance between the ranks of a number and its double. -/
def binade : Nat := 2 ^ (52 : Nat)

def magnitudes : Nat := 2047 * 2 ^ (52 : Nat)

inductive Double where
  | nan
  | infinite (negative : Bool)
  | finite (negative : Bool) (rank : Fin magnitudes)
  deriving DecidableEq

/-- The magnitude of a rank in units of the smallest positive one. -/
def units (rank : Nat) : Nat :=
  if rank < 2 * binade then rank else (binade + rank % binade) * 2 ^ (rank / binade - 1)

def roundHalfEven (numerator denominator : Nat) : Nat :=
  let whole := numerator / denominator
  let rest := numerator % denominator
  if 2 * rest < denominator then whole
  else if denominator < 2 * rest then whole + 1
  else whole + whole % 2

/-- The rank of the magnitude nearest to a quotient of units. Beyond the first two binades a
magnitude keeps 53 binary digits, so the rest is rounded away. -/
def nearestRank (numerator denominator : Nat) : Nat :=
  let shift := (numerator / denominator).log2 - 52
  shift * binade + roundHalfEven numerator (denominator * 2 ^ shift)

namespace Double

def ofRank (negative : Bool) (rank : Nat) : Double :=
  if bounded : rank < magnitudes then .finite negative ⟨rank, bounded⟩ else .infinite negative

def zero (negative : Bool) : Double := ofRank negative 0

def ofRatio (negative : Bool) (numerator denominator : Nat) : Double :=
  ofRank negative (nearestRank (numerator * 2 ^ (1074 : Nat)) denominator)

/-- The number nearest to `digits * 10 ^ exponent`. Exponents far outside the range are decided
without computing the power. -/
def ofDecimal (negative : Bool) (digits : Nat) (exponent : Int) : Double :=
  if digits = 0 then zero negative
  else if 400 < exponent then .infinite negative
  else if digits.log2 + exponent < -400 then zero negative
  else if 0 ≤ exponent then ofRatio negative (digits * 10 ^ exponent.toNat) 1
  else ofRatio negative digits (10 ^ (-exponent).toNat)

def ofInt (value : Int) : Double := ofRatio (value < 0) value.natAbs 1

def isNegative : Double → Bool
  | .nan => false
  | .infinite negative => negative
  | .finite negative _ => negative

def negate : Double → Double
  | .nan => .nan
  | .infinite negative => .infinite (!negative)
  | .finite negative rank => .finite (!negative) rank

def signedUnits? : Double → Option Int
  | .finite negative rank => some (if negative then -(units rank : Int) else units rank)
  | _ => none

def toInt? (x : Double) : Option Int :=
  x.signedUnits?.bind fun scaled =>
    if scaled % 2 ^ (1074 : Nat) = 0 then some (scaled / 2 ^ (1074 : Nat)) else none

/-- The sum of units as a number; an exact zero keeps a minus sign only where both terms have it. -/
def ofSignedUnits (negativeZero : Bool) (scaled : Int) (denominator : Nat) : Double :=
  if scaled = 0 then zero negativeZero
  else ofRank (scaled < 0) (nearestRank scaled.natAbs denominator)

def add (x y : Double) : Double :=
  match x.signedUnits?, y.signedUnits? with
  | some left, some right =>
      ofSignedUnits (x.isNegative && y.isNegative) (left + right) 1
  | some _, none => y
  | none, some _ => x
  | none, none => if x = y then x else .nan

def mul (x y : Double) : Double :=
  let negative := x.isNegative != y.isNegative
  match x.signedUnits?, y.signedUnits? with
  | some left, some right => ofSignedUnits negative (left * right) (2 ^ (1074 : Nat))
  | some 0, none => .nan
  | none, some 0 => .nan
  | _, _ => if x = .nan ∨ y = .nan then .nan else .infinite negative

/-- Whether two numbers are one key. A zero has no sign then, and what is no number, though it
equals nothing, is one object wherever it is read. -/
def sameNumber (x y : Double) : Bool :=
  match x.signedUnits?, y.signedUnits? with
  | some left, some right => left = right
  | _, _ => x = y

end Double

end Decimal

end Stubwright
