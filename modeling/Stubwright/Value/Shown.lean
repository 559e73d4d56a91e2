import Stubwright.Value
import Stubwright.Decimal.Limit
import Stubwright.Decimal.Shortest
import Stubwright.Text.Blank
import Stubwright.Text.Quoted

/-!
How values are written inside messages. `shown` writes a value unmistakably, texts in quotes;
`plain` writes texts, dates and moments as they read, and everything else as `shown` does.
-/

namespace Stubwright

def padded (width value : Nat) : Text :=
  let digits := Nat.toDigits 10 value
  Text.ofChars (List.replicate (width - digits.length) '0' ++ digits)

namespace Date

def isoText (date : Date) : Text :=
  padded 4 date.year ++ "-" ++ padded 2 date.month ++ "-" ++ padded 2 date.day

def shown (date : Date) : Text :=
  "datetime.date(" ++ Text.ofNat date.year ++ ", " ++ Text.ofNat date.month ++ ", " ++
    Text.ofNat date.day ++ ")"

end Date

namespace Moment

/-- An offset from universal time; seconds are written only where there are some. -/
def offsetText (offset : Int) : Text :=
  let size := offset.natAbs
  let seconds := size % 60
  (if offset < 0 then "-" else "+") ++ padded 2 (size / 3600) ++ ":" ++
    padded 2 (size / 60 % 60) ++ Text.when (seconds ≠ 0) (":" ++ padded 2 seconds)

def isoText (separator : Text) (moment : Moment) : Text :=
  moment.date.isoText ++ separator ++ padded 2 moment.hour ++ ":" ++ padded 2 moment.minute ++
    ":" ++ padded 2 moment.second ++
    Text.when (moment.microsecond ≠ 0) ("." ++ padded 6 moment.microsecond) ++
    (moment.offset.map offsetText).getD []

/-- A span of seconds, as days counted downwards and seconds within the day. -/
def spanShown (offset : Int) : Text :=
  let days := offset / 86400
  let seconds := offset % 86400
  let parts : List Text := (if days = 0 then [] else ["days=" ++ Text.ofInt days]) ++
    (if seconds = 0 then [] else ["seconds=" ++ Text.ofInt seconds])
  "datetime.timedelta(" ++ Text.when parts.isEmpty "0" ++ Text.joinWith ", " parts ++ ")"

def zoneShown (offset : Int) : Text :=
  if offset = 0 then "datetime.timezone.utc"
  else "datetime.timezone(" ++ spanShown offset ++ ")"

/-- Seconds and microseconds are written only as far as they are needed. -/
def shown (moment : Moment) : Text :=
  let parts := [moment.date.year, moment.date.month, moment.date.day, moment.hour, moment.minute] ++
    (if moment.microsecond ≠ 0 then [moment.second, moment.microsecond]
      else if moment.second ≠ 0 then [moment.second] else [])
  "datetime.datetime(" ++ Text.joinWith ", " (parts.map Text.ofNat) ++
    (moment.offset.map fun offset => ", tzinfo=" ++ zoneShown offset).getD [] ++ ")"

end Moment

namespace Value

mutual

def shown : Value → Text
  | .null => "None"
  | .bool truth => if truth then "True" else "False"
  | .int number => Text.ofInt number
  | .float number => number.toText
  | .str text => Text.quotedText text
  | .list items => "[" ++ Text.joinWith ", " (shownAll items) ++ "]"
  | .tuple [] => "()"
  | .tuple [item] => "(" ++ shown item ++ ",)"
  | .tuple (item :: next :: items) =>
      "(" ++ Text.joinWith ", " (shown item :: shown next :: shownAll items) ++ ")"
  | .set [] => "set()"
  | .set (item :: items) => "\x7b" ++ Text.joinWith ", " (shown item :: shownAll items) ++ "\x7d"
  | .map entries => "\x7b" ++ Text.joinWith ", " (shownEntries entries) ++ "\x7d"
  | .bytes octets => Text.quotedBytes octets
  | .date day => day.shown
  | .moment time => time.shown
  | .alien => "<object object>"
  | .knot _ body => body.shown
  | .link _ isMapping => if isMapping then "\x7b...\x7d" else "[...]"

def shownAll : List Value → List Text
  | [] => []
  | item :: items => shown item :: shownAll items

def shownEntries : List (Value × Value) → List Text
  | [] => []
  | (key, value) :: entries => (shown key ++ ": " ++ shown value) :: shownEntries entries

end

def plain : Value → Text
  | .str text => text
  | .date day => day.isoText
  | .moment time => time.isoText " "
  | value => value.shown

mutual

/-- Whether a value can be written at all: no whole number in it is too long for that. -/
def isWritable : Value → Bool
  | .int number => !Decimal.isTooLong number
  | .list items => areWritable items
  | .tuple items => areWritable items
  | .set items => areWritable items
  | .map entries => entriesWritable entries
  | .knot _ body => isWritable body
  | _ => true

def areWritable : List Value → Bool
  | [] => true
  | item :: items => isWritable item && areWritable items

def entriesWritable : List (Value × Value) → Bool
  | [] => true
  | (key, value) :: entries => isWritable key && isWritable value && entriesWritable entries

end

def writtenOr (write : Value → Text) (value : Value) : Text :=
  if value.isWritable then write value else "<unprintable " ++ value.kindName ++ " object>"

end Value

end Stubwright
