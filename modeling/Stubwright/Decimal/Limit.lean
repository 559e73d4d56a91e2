import Stubwright.Decimal.Double
import Stubwright.Text.Basic

/-!
The bound on whole numbers in decimal notation. A longer number is neither read nor written; in
other notations numbers are read whatever their length.
-/

namespace Stubwright.Decimal

def mostDigits : Nat := 4300

def isTooLong (number : Int) : Bool := 10 ^ mostDigits ≤ number.natAbs

/-- What is said of a number with too many digits. Their count is known only where it is read. -/
def tooLongMessage (count : Option Nat) : Text :=
  "Exceeds the limit (" ++ Text.ofNat mostDigits ++ " digits) for integer string conversion" ++
    (count.map fun count => ": value has " ++ Text.ofNat count ++ " digits").getD [] ++
    "; use sys.set_int_max_str_digits() to increase the limit"

end Stubwright.Decimal
