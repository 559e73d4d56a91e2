import Stubwright.Text.Blank
import Stubwright.Text.Digit

/-!
What a scalar without a tag of its own is, told from its spelling alone: YAML 1.1 forms of null,
truth values, numbers in several bases, dates, and the two special keys. Everything else is text.
-/

namespace Stubwright.Yaml

inductive Tag where
  | null
  | bool
  | int
  | float
  | binary
  | timestamp
  | omap
  | pairs
  | set
  | str
  | seq
  | map
  | merge
  | value
  | unknown
  deriving DecidableEq

def Tag.ofName (name : String) : Tag :=
  (["null", "bool", "int", "float", "binary", "timestamp", "omap", "pairs", "set", "str", "seq",
      "map", "merge", "value"].zip
    [.null, .bool, .int, .float, .binary, .timestamp, .omap, .pairs, .set, .str, .seq, .map,
      .merge, .value]).lookup name |>.getD .unknown

def tagNamespace : String := "tag:yaml.org,2002:"

def Tag.ofUri (uri : String) : Tag :=
  if tagNamespace.toList.isPrefixOf uri.toList then
    .ofName (String.ofList (uri.toList.drop tagNamespace.length))
  else .unknown

def unbroken (text : List Char) : List Char :=
  if text.getLast? = some '\n' then text.dropLast else text

namespace Resolution

def isNull (text : String) : Bool := text ∈ ["", "~", "null", "Null", "NULL"]

def isTruth (text : String) : Bool :=
  text ∈ ["yes", "Yes", "YES", "no", "No", "NO", "true", "True", "TRUE", "false", "False", "FALSE",
    "on", "On", "ON", "off", "Off", "OFF"]

def dropSign : List Char → List Char
  | '-' :: rest => rest
  | '+' :: rest => rest
  | text => text

def isGroupedDigit (c : Char) : Bool := c.isDigit || c = '_'

def isGrouped : List Char → Bool
  | [] => false
  | c :: rest => c.isDigit && rest.all isGroupedDigit

/-- The parts that follow the first one of a base sixty number: below sixty, two digits at most. -/
def isSixtieth : List Char → Bool
  | [c] => c.isDigit
  | [a, b] => '0' ≤ a && a ≤ '5' && b.isDigit
  | _ => false

def startsNonzero (text : List Char) : Bool :=
  match text with
  | [] => false
  | c :: _ => c.isDigit && c ≠ '0'

def isSexagesimal (first : List Char → Bool) (text : List Char) : Bool :=
  match Text.splitAt ':' text with
  | head :: part :: parts => first head && (part :: parts).all isSixtieth
  | _ => false

def isBased (digit? : Char → Bool) (text : List Char) : Bool :=
  !text.isEmpty && text.all fun c => digit? c || c = '_'

def isOctalDigit (c : Char) : Bool := '0' ≤ c && c ≤ '7'

def isHexDigit (c : Char) : Bool := (Text.asciiDigit? 16 c).isSome

def isInt (text : List Char) : Bool :=
  let body := dropSign text
  match body with
  | '0' :: 'b' :: digits => isBased (fun c => c = '0' || c = '1') digits
  | '0' :: 'x' :: digits => isBased isHexDigit digits
  | ['0'] => true
  | '0' :: digits => isBased isOctalDigit digits
  | _ =>
      (startsNonzero body && isGrouped body) ||
        isSexagesimal (fun head => startsNonzero head && isGrouped head) body

/-- An exponent, whose sign must be written; it may be missing altogether. -/
def isExponent : List Char → Bool
  | [] => true
  | e :: sign :: digits =>
      (e = 'e' || e = 'E') && (sign = '-' || sign = '+') && !digits.isEmpty &&
        digits.all Char.isDigit
  | _ => false

def beforePoint (text : List Char) : List Char := text.takeWhile (· ≠ '.')

def afterPoint (text : List Char) : List Char := (text.dropWhile (· ≠ '.')).drop 1

/-- Digits around a point. A number that starts with its point has no sign. -/
def isPointed (text : List Char) : Bool :=
  let fraction := afterPoint text
  let tail := fraction.dropWhile isGroupedDigit
  text.contains '.' && isExponent tail &&
    (isGrouped (dropSign (beforePoint text)) ||
      ((beforePoint text).isEmpty && isGrouped (fraction.takeWhile isGroupedDigit)))

def isPointedSexagesimal (text : List Char) : Bool :=
  text.contains '.' && (afterPoint text).all isGroupedDigit &&
    isSexagesimal isGrouped (dropSign (beforePoint text))

def isFloat (text : List Char) : Bool :=
  isPointed text || isPointedSexagesimal text ||
    String.ofList (dropSign text) ∈ [".inf", ".Inf", ".INF"] ||
    String.ofList text ∈ [".nan", ".NaN", ".NAN"]

end Resolution

structure TimestampText where
  date : List Char × List Char × List Char
  time : Option (List Char × List Char × List Char × List Char)
  /-- The zone: nothing, universal time, or a signed offset in hours and minutes. -/
  zone : Option (Option (Bool × List Char × List Char))

namespace TimestampText

def digits (least most : Nat) (text : List Char) : Option (List Char × List Char) :=
  let taken := (text.takeWhile Char.isDigit).take most
  if taken.length < least then none else some (taken, text.drop taken.length)

def expect (c : Char) : List Char → Option (List Char)
  | [] => none
  | first :: rest => if first = c then some rest else none

def isBlank (c : Char) : Bool := c = ' ' || c = '\t'

def zone? (text : List Char) : Option (Option (Option (Bool × List Char × List Char))) :=
  match text.dropWhile isBlank with
  | [] => if text.isEmpty then some none else none
  | ['Z'] => some (some none)
  | sign :: rest =>
      if sign = '-' ∨ sign = '+' then do
        let (hours, rest) ← digits 1 2 rest
        match rest with
        | [] => return some (some (sign = '-', hours, []))
        | ':' :: rest =>
            let (minutes, rest) ← digits 2 2 rest
            if rest.isEmpty then return some (some (sign = '-', hours, minutes)) else none
        | _ => none
      else none

def time? (text : List Char) :
    Option ((List Char × List Char × List Char × List Char) ×
      Option (Option (Bool × List Char × List Char))) := do
  let (hour, rest) ← digits 1 2 text
  let (minute, rest) ← digits 2 2 (← expect ':' rest)
  let (second, rest) ← digits 2 2 (← expect ':' rest)
  let (fraction, rest) := match rest with
    | '.' :: rest => (rest.takeWhile Char.isDigit, rest.dropWhile Char.isDigit)
    | _ => ([], rest)
  return ((hour, minute, second, fraction), ← zone? rest)

/-- Takes a timestamp apart. A time of day follows after a letter or after blanks. -/
def ofChars? (text : List Char) : Option TimestampText := do
  let (year, rest) ← digits 4 4 text
  let (month, rest) ← digits 1 2 (← expect '-' rest)
  let (day, rest) ← digits 1 2 (← expect '-' rest)
  match rest with
  | [] => return ⟨(year, month, day), none, none⟩
  | c :: rest =>
      let clock ← if c = 'T' ∨ c = 't' then some rest
        else if isBlank c then some (rest.dropWhile isBlank) else none
      let (time, zone) ← time? clock
      return ⟨(year, month, day), some time, zone⟩

/-- A date that stands alone has all its digits; only one with a time may leave some out. -/
def isPlain (text : List Char) : Bool :=
  match ofChars? text with
  | none => false
  | some stamp =>
      stamp.time.isSome || (stamp.date.2.1.length = 2 && stamp.date.2.2.length = 2)

end TimestampText

namespace Tag

def ofForm (chars : List Char) : Tag :=
  let text := String.ofList chars
  if Resolution.isTruth text then .bool
  else if Resolution.isFloat chars then .float
  else if Resolution.isInt chars then .int
  else if text = "<<" then .merge
  else if Resolution.isNull text then .null
  else if TimestampText.isPlain chars then .timestamp
  else if text = "=" then .value
  else if text ∈ ["!", "&", "*"] then .unknown
  else .str

/-- The meaning of a scalar that only its text tells. The forms are told apart by their first
character, which a line feed never is; at the end of a text one line feed is passed over. -/
def ofText (text : Text) : Tag :=
  match text.chars? with
  | none => .str
  | some chars => if chars = ['\n'] then .str else ofForm (unbroken chars)

end Tag

end Stubwright.Yaml
