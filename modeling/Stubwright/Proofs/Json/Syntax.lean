import Stubwright.Json

/-!
JSON texts as syntax trees. A tree keeps every character of its text, the white space included, so
it says both how a text is laid out and what it means.
-/

namespace Stubwright.Json

open Decimal

structure Gap where
  chars : List Char
  spaces : ∀ c ∈ chars, isSpace c = true

/-- A character of a string: as it is, as an escape of one letter, or by its code unit. -/
inductive Letter where
  | plain (c : Char) (ordinary : c ≠ '"' ∧ c ≠ '\\' ∧ 0x20 ≤ c.toNat)
  | short (c : Char) (unit : Nat) (known : simpleEscape? c = some unit)
  | numbered (a b c d : Char) (unit : Nat) (known : unit? a b c d = some unit)

namespace Letter

def text : Letter → List Char
  | .plain c _ => [c]
  | .short c _ _ => ['\\', c]
  | .numbered a b c d _ _ => ['\\', 'u', a, b, c, d]

def unit : Letter → Nat
  | .plain c _ => c.toNat
  | .short _ unit _ => unit
  | .numbered _ _ _ _ unit _ => unit

end Letter

abbrev Letters := List Letter

namespace Letters

def body (letters : Letters) : List Char := letters.flatMap Letter.text

def text (letters : Letters) : List Char := '"' :: (letters.body ++ ['"'])

def value (letters : Letters) : Text := joinSurrogates (letters.map Letter.unit)

end Letters

structure Exponent where
  letter : Char
  sign : Option Char
  digits : List Char
  isLetter : letter = 'e' ∨ letter = 'E'
  isSign : ∀ c ∈ sign, c = '+' ∨ c = '-'
  someDigits : digits ≠ []
  areDigits : ∀ c ∈ digits, c.isDigit = true

namespace Exponent

def text (exponent : Exponent) : List Char :=
  exponent.letter :: (exponent.sign.toList ++ exponent.digits)

def power (exponent : Exponent) : Int :=
  signed (exponent.sign = some '-') (decimalValue exponent.digits)

end Exponent

/-- A number. Its fraction is empty where there is no point, and only a number that has a fraction
or an exponent may have any number of digits. -/
structure Numeral where
  negative : Bool
  whole : List Char
  fraction : List Char
  exponent : Option Exponent
  someWhole : whole ≠ []
  noNeedlessZero : whole.head? = some '0' → whole = ['0']
  wholeDigits : ∀ c ∈ whole, c.isDigit = true
  fractionDigits : ∀ c ∈ fraction, c.isDigit = true
  short : fraction = [] → exponent = none → whole.length ≤ mostDigits

namespace Numeral

def fractionText (numeral : Numeral) : List Char :=
  if numeral.fraction = [] then [] else '.' :: numeral.fraction

def exponentText (numeral : Numeral) : List Char :=
  (numeral.exponent.map Exponent.text).getD []

def magnitudeText (numeral : Numeral) : List Char :=
  numeral.whole ++ (numeral.fractionText ++ numeral.exponentText)

def text (numeral : Numeral) : List Char :=
  (if numeral.negative then ['-'] else []) ++ numeral.magnitudeText

def digits (numeral : Numeral) : Nat := decimalValue (numeral.whole ++ numeral.fraction)

def power (numeral : Numeral) : Int := (numeral.exponent.map Exponent.power).getD 0

def value (numeral : Numeral) : Value :=
  if numeral.fraction = [] ∧ numeral.exponent = none then
    .int (signed numeral.negative numeral.digits)
  else .float (.ofDecimal numeral.negative numeral.digits (numeral.power - numeral.fraction.length))

end Numeral

/-- The key of a member, with the white space on both sides of its colon. -/
structure Key where
  letters : Letters
  before : Gap
  after : Gap

def Key.text (key : Key) : List Char :=
  key.letters.text ++ (key.before.chars ++ ':' :: key.after.chars)

mutual

/-- A value. White space stands after an opening bracket and after every item and comma. -/
inductive Tree where
  | word (chars : List Char) (value : Value) (known : (chars, value) ∈ words)
  | number (numeral : Numeral)
  | string (letters : Letters)
  | emptyArray (gap : Gap)
  | array (gap : Gap) (items : Items)
  | emptyObject (gap : Gap)
  | object (gap : Gap) (members : Members)

inductive Items where
  | last (item : Tree) (after : Gap)
  | more (item : Tree) (after next : Gap) (rest : Items)

inductive Members where
  | last (key : Key) (value : Tree) (after : Gap)
  | more (key : Key) (value : Tree) (after next : Gap) (rest : Members)

end

mutual

def Tree.text : Tree → List Char
  | .word chars _ _ => chars
  | .number numeral => numeral.text
  | .string letters => letters.text
  | .emptyArray gap => '[' :: (gap.chars ++ [']'])
  | .array gap items => '[' :: (gap.chars ++ (items.text ++ [']']))
  | .emptyObject gap => '\x7b' :: (gap.chars ++ ['\x7d'])
  | .object gap members => '\x7b' :: (gap.chars ++ (members.text ++ ['\x7d']))

def Items.text : Items → List Char
  | .last item after => item.text ++ after.chars
  | .more item after next rest => item.text ++ (after.chars ++ ',' :: (next.chars ++ rest.text))

def Members.text : Members → List Char
  | .last key value after => key.text ++ (value.text ++ after.chars)
  | .more key value after next rest =>
      key.text ++ (value.text ++ (after.chars ++ ',' :: (next.chars ++ rest.text)))

end

mutual

def Tree.value : Tree → Value
  | .word _ value _ => value
  | .number numeral => numeral.value
  | .string letters => .str letters.value
  | .emptyArray _ => .list []
  | .array _ items => .list items.values
  | .emptyObject _ => .map []
  | .object _ members => Value.ofEntries members.entries

def Items.values : Items → List Value
  | .last item _ => [item.value]
  | .more item _ _ rest => item.value :: rest.values

def Members.entries : Members → List (Value × Value)
  | .last key value _ => [(.str key.letters.value, value.value)]
  | .more key value _ _ rest => (.str key.letters.value, value.value) :: rest.entries

end

mutual

def Tree.depth : Tree → Nat
  | .word _ _ _ => 0
  | .number _ => 0
  | .string _ => 0
  | .emptyArray _ => 1
  | .array _ items => items.depth + 1
  | .emptyObject _ => 1
  | .object _ members => members.depth + 1

def Items.depth : Items → Nat
  | .last item _ => item.depth
  | .more item _ _ rest => max item.depth rest.depth

def Members.depth : Members → Nat
  | .last _ value _ => value.depth
  | .more _ value _ _ rest => max value.depth rest.depth

end

structure Document where
  before : Gap
  root : Tree
  after : Gap

namespace Document

def text (document : Document) : List Char :=
  document.before.chars ++ (document.root.text ++ document.after.chars)

def value (document : Document) : Value := document.root.value

end Document

/-! ### A text that goes on -/

section

variable (rest : List Char)

theorem Letters.text_append (letters : Letters) :
    letters.text ++ rest = '"' :: (letters.body ++ '"' :: rest) := by
  simp [Letters.text]

theorem Key.text_append (key : Key) :
    key.text ++ rest = '"' :: (key.letters.body ++
      '"' :: (key.before.chars ++ ':' :: (key.after.chars ++ rest))) := by
  simp [Key.text, Letters.text]

namespace Tree

variable (gap : Gap)

theorem empty_array_append :
    (emptyArray gap).text ++ rest = '[' :: (gap.chars ++ ']' :: rest) := by
  simp [text]

theorem array_append (items : Items) :
    (array gap items).text ++ rest = '[' :: (gap.chars ++ (items.text ++ ']' :: rest)) := by
  simp [text]

theorem empty_object_append :
    (emptyObject gap).text ++ rest = '\x7b' :: (gap.chars ++ '\x7d' :: rest) := by
  simp [text]

theorem object_append (members : Members) :
    (object gap members).text ++ rest =
      '\x7b' :: (gap.chars ++ (members.text ++ '\x7d' :: rest)) := by
  simp [text]

end Tree

theorem Items.last_append (item : Tree) (after : Gap) :
    (last item after).text ++ rest = item.text ++ (after.chars ++ rest) := by
  simp [text]

theorem Items.more_append (item : Tree) (after next : Gap) (others : Items) :
    (more item after next others).text ++ rest =
      item.text ++ (after.chars ++ ',' :: (next.chars ++ (others.text ++ rest))) := by
  simp [text]

theorem Members.last_append (key : Key) (value : Tree) (after : Gap) :
    (last key value after).text ++ rest = key.text ++ (value.text ++ (after.chars ++ rest)) := by
  simp [text]

theorem Members.more_append (key : Key) (value : Tree) (after next : Gap) (others : Members) :
    (more key value after next others).text ++ rest =
      key.text ++
        (value.text ++ (after.chars ++ ',' :: (next.chars ++ (others.text ++ rest)))) := by
  simp [text]

end

end Stubwright.Json
