import Stubwright.Decimal.Double
import Stubwright.Text.Basic

/-!
The decimal text of a number: the fewest digits that read back as the same number, and among those
the nearest to it. `Layout` says how the digits are set out.
-/

namespace Stubwright.Decimal

structure Digits where
  digits : Nat
  exponent : Int
  deriving DecidableEq

namespace Digits

def toDouble (decimal : Digits) : Double := Double.ofDecimal false decimal.digits decimal.exponent

def withoutZeros : Nat → Digits → Digits
  | 0, decimal => decimal
  | fuel + 1, decimal =>
      if decimal.digits % 10 = 0 ∧ decimal.digits ≠ 0 then
        withoutZeros fuel ⟨decimal.digits / 10, decimal.exponent + 1⟩
      else decimal

end Digits

def decimalLength (value : Nat) : Nat := (Nat.toDigits 10 value).length

/-- The power of ten just above a magnitude. -/
def decimalPoint (magnitude : Nat) : Int :=
  if 2 ^ (1074 : Nat) ≤ magnitude then decimalLength (magnitude / 2 ^ (1074 : Nat))
  else 1 - decimalLength (2 ^ (1074 : Nat) / magnitude)

def scaledTo (exponent : Int) (magnitude : Nat) : Nat × Nat :=
  if 0 ≤ exponent then (magnitude, 2 ^ (1074 : Nat) * 10 ^ exponent.toNat)
  else (magnitude * 10 ^ (-exponent).toNat, 2 ^ (1074 : Nat))

/-- The nearer of the two neighbours of a magnitude among the decimals of one length, of those
that read back as it. -/
def neighbour? (rank : Nat) (length : Nat) : Option Digits :=
  let exponent := decimalPoint (units rank) - length
  let (numerator, denominator) := scaledTo exponent (units rank)
  let below := numerator / denominator
  let nearest := roundHalfEven numerator denominator
  let farther := if nearest = below then below + 1 else below
  [nearest, farther].findSome? fun digits =>
    let decimal : Digits := ⟨digits, exponent⟩
    if decimal.toDouble = Double.ofRank false rank then some decimal else none

/-- Every magnitude has a decimal form, though a long one. -/
def exactDigits (rank : Nat) : Digits := ⟨units rank * 5 ^ (1074 : Nat), -1074⟩

/-- Seventeen digits always tell two numbers apart. -/
def shortest (rank : Nat) : Digits :=
  if rank = 0 then ⟨0, 0⟩
  else
    let decimal := ((List.range' 1 17).findSome? (neighbour? rank)).getD (exactDigits rank)
    decimal.withoutZeros (decimalLength decimal.digits)

/-- Which numbers are written without an exponent, by the position of their point, and how many
digits an exponent has at least. -/
structure Layout where
  lowestPoint : Int
  highestPoint : Int
  exponentWidth : Nat

/-- Positional from a ten-thousandth up to ten to the sixteenth, and two digits of exponent. -/
def Layout.standard : Layout := ⟨-3, 16, 2⟩

def zeros (count : Nat) : List Char := List.replicate count '0'

namespace Layout

def positional (digits : List Char) (point : Int) : List Char :=
  if point ≤ 0 then '0' :: '.' :: (zeros (-point).toNat ++ digits)
  else if digits.length ≤ point.toNat then
    digits ++ zeros (point.toNat - digits.length) ++ ['.', '0']
  else digits.take point.toNat ++ '.' :: digits.drop point.toNat

def scientific (layout : Layout) (digits : List Char) (point : Int) : List Char :=
  let power := (point - 1).natAbs
  let written := Nat.toDigits 10 power
  digits.take 1 ++ (if digits.length ≤ 1 then [] else '.' :: digits.drop 1) ++
    'e' :: (if point ≤ 0 then '-' else '+') ::
      (zeros (layout.exponentWidth - written.length) ++ written)

def magnitude (layout : Layout) (decimal : Digits) : List Char :=
  let digits := Nat.toDigits 10 decimal.digits
  let point := if decimal.digits = 0 then 1 else digits.length + decimal.exponent
  if layout.lowestPoint ≤ point ∧ point ≤ layout.highestPoint then positional digits point
  else layout.scientific digits point

end Layout

def finiteText (negative : Bool) (rank : Nat) : List Char :=
  (if negative then ['-'] else []) ++ Layout.standard.magnitude (shortest rank)

namespace Double

def toText : Double → Text
  | .nan => "nan"
  | .infinite negative => if negative then "-inf" else "inf"
  | .finite negative rank => Text.ofChars (finiteText negative rank)

end Double

end Stubwright.Decimal
