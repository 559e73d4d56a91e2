import Stubwright.Decimal.Limit
import Stubwright.Decimal.Numeral
import Stubwright.Value.Key

/-!
Values read from JSON. Beyond the standard, the names of infinity and of what is no number are
accepted; numbers are read exactly, as whole numbers where they have neither point nor exponent.
Of several faults the first in the text counts.
-/

namespace Stubwright.Json

open Decimal

inductive Fault where
  | malformed
  /-- A whole number has too many digits. -/
  | longNumber (digits : Nat)
  /-- An array or an object stands too deep in others. -/
  | tooDeep (isObject : Bool)
  deriving DecidableEq

def Fault.message : Fault → Text
  | .malformed => "<json>"
  | .longNumber digits => tooLongMessage digits
  | .tooDeep isObject =>
      "maximum recursion depth exceeded while decoding a JSON " ++
        (if isObject then "object" else "array") ++ " from a unicode string"

def demand {α : Type} : Option α → Except Fault α
  | some part => .ok part
  | none => .error .malformed

def isSpace (c : Char) : Bool := c = ' ' || c = '\t' || c = '\n' || c = '\r'

def skipSpace (text : List Char) : List Char := text.dropWhile isSpace

def unit? (a b c d : Char) : Option Nat := do
  let digits ← [a, b, c, d].mapM (Text.asciiDigit? 16)
  return ofDigitValues 16 digits

def simpleEscape? (c : Char) : Option Nat :=
  [('"', 0x22), ('\\', 0x5c), ('/', 0x2f), ('b', 0x08), ('f', 0x0c), ('n', 0x0a), ('r', 0x0d),
    ('t', 0x09)].lookup c

def stringUnits : List Char → Option (List Nat × List Char)
  | [] => none
  | '"' :: rest => some ([], rest)
  | '\\' :: 'u' :: a :: b :: c :: d :: rest => do
      let unit ← unit? a b c d
      let (units, after) ← stringUnits rest
      return (unit :: units, after)
  | '\\' :: c :: rest => do
      let unit ← simpleEscape? c
      let (units, after) ← stringUnits rest
      return (unit :: units, after)
  | c :: rest =>
      if c.toNat < 0x20 then none
      else do
        let (units, after) ← stringUnits rest
        return (c.toNat :: units, after)

def isHighSurrogate (unit : Nat) : Bool := 0xd800 ≤ unit && unit ≤ 0xdbff

def isLowSurrogate (unit : Nat) : Bool := 0xdc00 ≤ unit && unit ≤ 0xdfff

/-- Puts the halves of surrogate pairs together. A half without the other stays. -/
def joinSurrogates : List Nat → Text
  | [] => []
  | [unit] => [.ofNumber unit]
  | high :: low :: rest =>
      if isHighSurrogate high && isLowSurrogate low then
        .ofNumber (0x10000 + (high - 0xd800) * 0x400 + (low - 0xdc00)) :: joinSurrogates rest
      else .ofNumber high :: joinSurrogates (low :: rest)

def readString (text : List Char) : Except Fault (Text × List Char) := do
  let (units, after) ← demand (stringUnits text)
  return (joinSurrogates units, after)

def takeDigits (text : List Char) : List Char × List Char :=
  (text.takeWhile Char.isDigit, text.dropWhile Char.isDigit)

def decimalValue (digits : List Char) : Nat :=
  ofDigitValues 10 (digits.map fun c => c.toNat - '0'.toNat)

/-- The whole part of a number: a lone zero, or digits that do not start with one. -/
def takeWhole (text : List Char) : Option (List Char × List Char) :=
  match text with
  | '0' :: rest => some (['0'], rest)
  | _ =>
      let (digits, rest) := takeDigits text
      if digits.isEmpty then none else some (digits, rest)

/-- The digits after a point; a point without digits is no part of a number. -/
def takeFraction (text : List Char) : List Char × List Char :=
  match text with
  | '.' :: rest =>
      let (digits, after) := takeDigits rest
      if digits.isEmpty then ([], text) else (digits, after)
  | _ => ([], text)

def takeExponent (text : List Char) : Option (Int × List Char) :=
  match text with
  | c :: rest =>
      if c = 'e' ∨ c = 'E' then
        let (negative, unsigned) := takeSign rest
        let (digits, after) := takeDigits unsigned
        if digits.isEmpty then none else some (signed negative (decimalValue digits), after)
      else none
  | [] => none

def readNumber (text : List Char) : Except Fault (Value × List Char) := do
  let negative := text.head? = some '-'
  let (whole, afterWhole) ← demand (takeWhole (if negative then text.drop 1 else text))
  let (fraction, afterFraction) := takeFraction afterWhole
  let digits := decimalValue (whole ++ fraction)
  match takeExponent afterFraction with
  | some (power, after) =>
      return (.float (.ofDecimal negative digits (power - fraction.length)), after)
  | none =>
      if !fraction.isEmpty then
        return (.float (.ofDecimal negative digits (-fraction.length)), afterFraction)
      if mostDigits < whole.length then throw (.longNumber whole.length)
      return (.int (signed negative digits), afterFraction)

def words : List (List Char × Value) :=
  [("null".toList, .null), ("true".toList, .bool true), ("false".toList, .bool false),
    ("NaN".toList, .float .nan), ("Infinity".toList, .float (.infinite false)),
    ("-Infinity".toList, .float (.infinite true))]

def readWord (text : List Char) : Option (Value × List Char) :=
  words.findSome? fun (word, value) =>
    if word.isPrefixOf text then some (value, text.drop word.length) else none

def inside (isObject : Bool) : Nat → Except Fault Nat
  | 0 => .error (.tooDeep isObject)
  | room + 1 => .ok room

mutual

/-- A value that starts with the text, where there is room for some arrays and objects in each
other. Every part of a value takes at least one character, so the fuel never has to exceed the
length of the text. -/
def readValue (room : Nat) : Nat → List Char → Except Fault (Value × List Char)
  | 0, _ => .error .malformed
  | fuel + 1, text =>
      match text with
      | '"' :: rest => do
          let (read, after) ← readString rest
          return (.str read, after)
      | '[' :: rest => do
          let inner ← inside false room
          match skipSpace rest with
          | ']' :: after => return (.list [], after)
          | items =>
              let (read, after) ← readItems inner fuel items
              return (.list read, after)
      | '\x7b' :: rest => do
          let inner ← inside true room
          match skipSpace rest with
          | '\x7d' :: after => return (.map [], after)
          | members =>
              let (read, after) ← readMembers inner fuel members
              return (Value.ofEntries read, after)
      | _ =>
          match readWord text with
          | some word => .ok word
          | none => readNumber text

def readItems (room : Nat) : Nat → List Char → Except Fault (List Value × List Char)
  | 0, _ => .error .malformed
  | fuel + 1, text => do
      let (item, afterItem) ← readValue room fuel text
      match skipSpace afterItem with
      | ',' :: rest =>
          let (items, after) ← readItems room fuel (skipSpace rest)
          return (item :: items, after)
      | ']' :: after => return ([item], after)
      | _ => throw .malformed

def readMembers (room : Nat) : Nat → List Char → Except Fault (List (Value × Value) × List Char)
  | 0, _ => .error .malformed
  | fuel + 1, text =>
      match text with
      | '"' :: afterQuote => do
          let (key, afterKey) ← readString afterQuote
          match skipSpace afterKey with
          | ':' :: afterColon =>
              let (value, afterValue) ← readValue room fuel (skipSpace afterColon)
              match skipSpace afterValue with
              | ',' :: rest =>
                  let (members, after) ← readMembers room fuel (skipSpace rest)
                  return ((.str key, value) :: members, after)
              | '\x7d' :: after => return ([(.str key, value)], after)
              | _ => throw .malformed
          | _ => throw .malformed
      | _ => .error .malformed

end

def ofChars (room : Nat) (text : List Char) : Except Fault Value := do
  let (value, after) ← readValue room (text.length + 1) (skipSpace text)
  if (skipSpace after).isEmpty then return value else throw .malformed

end Stubwright.Json
