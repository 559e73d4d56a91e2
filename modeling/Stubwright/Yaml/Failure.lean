import Stubwright.Decimal.Limit
import Stubwright.Text.Utf8
import Stubwright.Value

/-!
Why a YAML text gives no value, and how the reasons are worded.
-/

namespace Stubwright

inductive CalendarFault where
  | year (number : Nat)
  | month
  | day
  | hour
  | minute
  | second
  /-- A zone lies a day or more, in seconds, off the common time line. -/
  | zone (offset : Int)
  deriving DecidableEq

namespace CalendarFault

/-- A span of time in seconds as messages write it, with days that are never rounded up. -/
def spanText (seconds : Int) : Text :=
  let days := Int.fdiv seconds 86400
  let rest := Int.fmod seconds 86400
  "datetime.timedelta(days=" ++ .ofInt days ++ .when (rest ≠ 0) (", seconds=" ++ .ofInt rest) ++ ")"

def message : CalendarFault → Text
  | .year number => "year " ++ .ofNat number ++ " is out of range"
  | .month => "month must be in 1..12"
  | .day => "day is out of range for month"
  | .hour => "hour must be in 0..23"
  | .minute => "minute must be in 0..59"
  | .second => "second must be in 0..59"
  | .zone offset =>
      "offset must be a timedelta strictly between -timedelta(hours=24) and " ++
        "timedelta(hours=24), not " ++ spanText offset ++ "."

end CalendarFault

def Date.fault? (date : Date) : Option CalendarFault :=
  if date.year = 0 ∨ 9999 < date.year then some (.year date.year)
  else if date.month = 0 ∨ 12 < date.month then some .month
  else if date.day = 0 ∨ monthLength date.year date.month < date.day then some .day
  else none

/-- The zone comes first, then the date, then the time of day. -/
def Moment.fault? (moment : Moment) : Option CalendarFault :=
  let offset := moment.offset.getD 0
  if 86400 ≤ offset.natAbs then some (.zone offset)
  else moment.date.fault?.or <|
    if 24 ≤ moment.hour then some .hour
    else if 60 ≤ moment.minute then some .minute
    else if 60 ≤ moment.second then some .second
    else none

namespace Yaml

inductive Failure where
  /-- The text is not a well-formed document, or holds a value that has no meaning. -/
  | malformed
  /-- The file is no text from some place on. -/
  | undecodable (flaw : Text.Flaw)
  /-- A scalar has the form of a whole number in a base, but no such number. -/
  | badNumeral (base : Nat) (text : Text)
  /-- A whole number has too many digits. -/
  | longNumeral (digits : Nat)
  | badReal (text : Text)
  /-- A part of a number in base sixty stands for more than any number holds. -/
  | hugeReal
  | badDate (fault : CalendarFault)
  /-- An escape names a code point beyond the last one. -/
  | noCharacter
  /-- An escape names a number beyond 31 bits. -/
  | hugeEscape
  /-- A word was marked as a truth value that is none. -/
  | unknownWord (word : Text)
  /-- An empty scalar was marked as a number. -/
  | emptyNumeral
  /-- A scalar was marked as a date that does not look like one. -/
  | notDate
  /-- A mapping was marked as a date. -/
  | mappedDate
  /-- Collections stand too deep in each other. -/
  | tooDeep
  deriving DecidableEq

namespace Failure

/-- How much of a text that should be a whole number is shown, the quotes included. -/
def shownNumeral : Nat := 200

def message : Failure → Text
  | .malformed => "<yaml>"
  | .undecodable flaw => flaw.message
  | .badNumeral base text =>
      "invalid literal for int() with base " ++ .ofNat base ++ ": " ++
        (Text.quotedText text).take shownNumeral
  | .longNumeral digits => Decimal.tooLongMessage digits
  | .badReal text => "could not convert string to float: " ++ Text.quotedText text
  | .hugeReal => "int too large to convert to float"
  | .badDate fault => fault.message
  | .noCharacter => "chr() arg not in range(0x110000)"
  | .hugeEscape => "Python int too large to convert to C int"
  | .unknownWord word => Text.quotedText word
  | .emptyNumeral => "string index out of range"
  | .notDate => "'NoneType' object has no attribute 'groupdict'"
  | .mappedDate => "expected string or bytes-like object, got 'list'"
  | .tooDeep => "maximum recursion depth exceeded"

/-- Whether the reader itself breaks at a value, which is then not just one that it refuses. -/
def isFatal : Failure → Bool
  | .hugeReal => true
  | .hugeEscape => true
  | .emptyNumeral => true
  | .notDate => true
  | .mappedDate => true
  | .tooDeep => true
  | _ => false

end Failure

end Yaml

end Stubwright
