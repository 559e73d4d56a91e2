import Stubwright.Proofs.Script.Word
import Stubwright.Decimal.Double
import Stubwright.Value

/-!
A reader of literal expressions: null, truth values, whole numbers of any size and differences of
two of them, decimals, the constants for infinity and for what is no number, quoted texts, and
arrays in brackets whose elements may have keys. It takes a literal off the front of a text and
leaves the rest.
-/

namespace Stubwright.Literal

open Decimal Script

def takeDigits : Text → List Char × Text
  | .char c :: rest =>
      if c.isDigit then (c :: (takeDigits rest).1, (takeDigits rest).2) else ([], .char c :: rest)
  | text => ([], text)

def takeFraction : Text → Option (List Char) × Text
  | .char '.' :: rest => (some (takeDigits rest).1, (takeDigits rest).2)
  | text => (none, text)

def takeSign : Text → Bool × Text
  | .char '-' :: rest => (true, rest)
  | .char '+' :: rest => (false, rest)
  | text => (false, text)

/-- An exponent with its sign, taken only if it has digits. -/
def takeExponent : Text → Option Int × Text
  | .char mark :: rest =>
      let (negative, unsigned) := takeSign rest
      let (digits, after) := takeDigits unsigned
      if (mark = 'e' ∨ mark = 'E') ∧ digits ≠ [] then
        let power : Int := Nat.ofDigitChars 10 digits 0
        (some (if negative then -power else power), after)
      else (none, .char mark :: rest)
  | text => (none, text)

/-- A number without a sign. A whole number that starts with a needless zero is not decimal. -/
def readNumber (text : Text) : Option (Value × Text) :=
  let (whole, afterWhole) := takeDigits text
  let (fraction, afterFraction) := takeFraction afterWhole
  let (exponent, after) := takeExponent afterFraction
  if whole = [] then none
  else if fraction.isSome ∨ exponent.isSome then
    let digits := Nat.ofDigitChars 10 (whole ++ fraction.getD []) 0
    let power := exponent.getD 0 - (fraction.getD []).length
    some (.float (Double.ofDecimal false digits power), after)
  else if whole.head? = some '0' ∧ whole.length ≠ 1 then none
  else some (.int (Nat.ofDigitChars 10 whole 0), after)

def constant? (word : Text) : Option Value :=
  if word = "INF" then some (.float (.infinite false))
  else if word = "NAN" then some (.float .nan)
  else if lower word = "null" then some .null
  else if lower word = "true" then some (.bool true)
  else if lower word = "false" then some (.bool false)
  else none

def readConstant (text : Text) : Option (Value × Text) :=
  (constant? (text.takeWhile isWordPoint)).map fun value => (value, text.dropWhile isWordPoint)

def negated? : Value → Option Value
  | .int number => some (.int (-number))
  | .float number => some (.float number.negate)
  | _ => none

def readOperand (text : Text) : Option (Value × Text) :=
  (readNumber text).or (readConstant text)

def readSigned : Text → Option (Value × Text)
  | .char '-' :: rest => do
      let (value, after) ← readOperand rest
      let negative ← negated? value
      some (negative, after)
  | text => readOperand text

def readScalar (text : Text) : Option (Value × Text) :=
  match readSigned text with
  | some (.int left, .char '-' :: rest) =>
      match readNumber rest with
      | some (.int right, after) => some (.int (left - right), after)
      | _ => none
  | found => found

/-- What follows an opening quote. A backslash takes a quote or another backslash with it, and
stands for itself before anything else. -/
def readQuoted : Text → Option (Text × Text)
  | [] => none
  | .char '\'' :: rest => some ([], rest)
  | .char '\\' :: .char '\'' :: rest =>
      (readQuoted rest).map fun found => (.char '\'' :: found.1, found.2)
  | .char '\\' :: .char '\\' :: rest =>
      (readQuoted rest).map fun found => (.char '\\' :: found.1, found.2)
  | point :: rest => (readQuoted rest).map fun found => (point :: found.1, found.2)

/-- What follows an opening double quote, as long as nothing in it is escaped or filled in. -/
def readPlainlyQuoted : Text → Option (Text × Text)
  | [] => none
  | .char '"' :: rest => some ([], rest)
  | .char '\\' :: _ => none
  | .char '$' :: _ => none
  | point :: rest => (readPlainlyQuoted rest).map fun found => (point :: found.1, found.2)

def afterSpaces (text : Text) : Text := text.dropWhile isSpace

def isArrayKey : Value → Bool
  | .int _ => true
  | .str _ => true
  | _ => false

abbrev Element := Option Value × Value

/-- Fills in the missing keys: each is the next number above all number keys before it. -/
def keyed : Int → List Element → List (Value × Value)
  | _, [] => []
  | next, (none, value) :: rest => (.int next, value) :: keyed (next + 1) rest
  | next, (some (.int key), value) :: rest =>
      (.int key, value) :: keyed (max next (key + 1)) rest
  | next, (some key, value) :: rest => (key, value) :: keyed next rest

def ofElements (elements : List Element) : Value :=
  if elements.all fun element => element.1.isNone then .list (elements.map Prod.snd)
  else .map (keyed 0 elements)

mutual

def readWithin : Nat → Text → Option (Value × Text)
  | 0, _ => none
  | room + 1, text =>
      match text with
      | .char '\'' :: rest => (readQuoted rest).map fun found => (.str found.1, found.2)
      | .char '"' :: rest => (readPlainlyQuoted rest).map fun found => (.str found.1, found.2)
      | .char '[' :: rest => do
          let (elements, after) ← readElements room rest
          some (ofElements elements, after)
      | _ => readScalar text

/-- Elements up to the closing bracket. A comma may stand after the last one. -/
def readElements : Nat → Text → Option (List Element × Text)
  | 0, _ => none
  | room + 1, text =>
      match afterSpaces text with
      | .char ']' :: rest => some ([], rest)
      | start => do
          let (element, rest) ← readElement room start
          match afterSpaces rest with
          | .char ',' :: more => do
              let (elements, after) ← readElements room more
              some (element :: elements, after)
          | .char ']' :: after => some ([element], after)
          | _ => none

def readElement : Nat → Text → Option (Element × Text)
  | 0, _ => none
  | room + 1, text => do
      let (first, rest) ← readWithin room text
      match afterSpaces rest with
      | .char '=' :: .char '>' :: more =>
          if isArrayKey first then do
            let (value, after) ← readWithin room (afterSpaces more)
            some ((some first, value), after)
          else none
      | _ => some ((none, first), rest)

end

/-- Reads a literal off the front of a text. Two steps for each point are room enough. -/
def read (text : Text) : Option (Value × Text) := readWithin (2 * text.length) text

def Ends (suffix : Text) : Prop :=
  ∀ point, suffix.head? = some point → point ∈ ([',', ']', ')', ';', ' '] : List CodePoint)

end Stubwright.Literal
