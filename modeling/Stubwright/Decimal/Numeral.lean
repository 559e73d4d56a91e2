import Stubwright.Decimal.Double
import Stubwright.Text.Blank
import Stubwright.Text.Digit

/-!
Numerals in running text. A numeral may be surrounded by blanks, carry a sign, and group its digits
with single underscores, each of which stands between two digits.
-/

namespace Stubwright.Decimal

/-- White space that may stand around a numeral. The information separators may not. -/
def isMargin (c : Char) : Bool := Text.isBlank c && !(0x1c ≤ c.toNat && c.toNat ≤ 0x1f)

/-- The values of the digits that follow; an underscore must have a digit on both sides, so one
may come next only `afterDigit`. -/
def digitsFollowing? (digit? : Char → Option Nat) (afterDigit : Bool) :
    List Char → Option (List Nat)
  | [] => if afterDigit then some [] else none
  | c :: rest =>
      if c = '_' then
        if afterDigit then digitsFollowing? digit? false rest else none
      else match digit? c with
        | none => none
        | some value => (digitsFollowing? digit? true rest).map (value :: ·)

def groupedDigits? (digit? : Char → Option Nat) (text : List Char) : Option (List Nat) :=
  digitsFollowing? digit? false text

def ofDigitValues (base : Nat) (values : List Nat) : Nat :=
  values.foldl (fun total value => total * base + value) 0

/-- Cuts a sign off: whether it was a minus, and what follows. -/
def takeSign : List Char → Bool × List Char
  | '-' :: rest => (true, rest)
  | '+' :: rest => (false, rest)
  | text => (false, text)

def signed (negative : Bool) (value : Nat) : Int := if negative then -(value : Int) else value

/-- Cuts off the mark of a base (a zero and its letter in either case), and one underscore
that may follow it. -/
def dropBaseMark (mark : Char) : List Char → List Char
  | '0' :: c :: rest =>
      if c.toLower = mark then
        match rest with
        | '_' :: more => more
        | _ => rest
      else '0' :: c :: rest
  | text => text

/-- A whole number in a base; in bases two, eight and sixteen it may carry the base's mark. -/
def readInt? (base : Nat) (text : List Char) : Option Int :=
  let (negative, body) := takeSign (Text.trim isMargin text)
  let unmarked :=
    if base = 2 then dropBaseMark 'b' body
    else if base = 8 then dropBaseMark 'o' body
    else if base = 16 then dropBaseMark 'x' body
    else body
  (groupedDigits? (Text.baseDigit? base) unmarked).map fun values =>
    signed negative (ofDigitValues base values)

def optionalDigits? (text : List Char) : Option (List Nat) :=
  if text.isEmpty then some [] else groupedDigits? Text.digitValue? text

def readMagnitude? (negative : Bool) (text : List Char) : Option Double := do
  let mantissa := text.takeWhile fun c => c ≠ 'e' && c ≠ 'E'
  let tail := text.dropWhile fun c => c ≠ 'e' && c ≠ 'E'
  let exponent ← match tail with
    | [] => some 0
    | _ :: power =>
        let (down, digits) := takeSign power
        (groupedDigits? Text.digitValue? digits).map fun values =>
          signed down (ofDigitValues 10 values)
  let whole ← optionalDigits? (mantissa.takeWhile (· ≠ '.'))
  let fraction ← optionalDigits? ((mantissa.dropWhile (· ≠ '.')).drop 1)
  if whole.isEmpty && fraction.isEmpty then none
  else some (Double.ofDecimal negative (ofDigitValues 10 (whole ++ fraction))
    (exponent - fraction.length))

/-- A number: a decimal, or one of the names of infinity and of what is no number. -/
def readDouble? (text : List Char) : Option Double :=
  let (negative, body) := takeSign (Text.trim isMargin text)
  let word := String.ofList (body.map Char.toLower)
  if word = "inf" || word = "infinity" then some (.infinite negative)
  else if word = "nan" then some .nan
  else readMagnitude? negative body

end Stubwright.Decimal
