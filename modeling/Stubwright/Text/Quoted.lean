import Stubwright.Text.Basic
import Stubwright.Text.Printable

/-!
Texts and bytes as they are quoted inside messages. The quotation mark is chosen so that as little
as possible has to be escaped, and characters without a visible form are written by their number.
-/

namespace Stubwright.Text

def hexDigit (value : Nat) : Char :=
  if value < 10 then Char.ofNat ('0'.toNat + value) else Char.ofNat ('a'.toNat + (value - 10))

def hexDigits : Nat → Nat → List Char
  | 0, _ => []
  | width + 1, value => hexDigits width (value / 16) ++ [hexDigit (value % 16)]

/-- The apostrophe, unless the text holds one and no quotation mark. -/
def quoteFor (text : Text) : Char :=
  if text.contains '\'' && !text.contains '"' then '"' else '\''

/-- The escapes that texts and bytes share: the quote, the backslash and the common controls. -/
def commonEscape? (quote c : Char) : Option (List Char) :=
  if c = quote || c = '\\' then some ['\\', c]
  else if c = '\n' then some ['\\', 'n']
  else if c = '\r' then some ['\\', 'r']
  else if c = '\t' then some ['\\', 't']
  else none

/-- The escape of a code point up to the end of the basic plane. -/
def shortEscape (number : Nat) : List Char := '\\' :: 'u' :: hexDigits 4 number

def quotedChar (quote c : Char) : List Char :=
  (commonEscape? quote c).getD <|
    if isPrintable c then [c]
    else if c.toNat < 0x100 then '\\' :: 'x' :: hexDigits 2 c.toNat
    else if c.toNat < 0x10000 then shortEscape c.toNat
    else '\\' :: 'U' :: hexDigits 8 c.toNat

def quotedPoint (quote : Char) : CodePoint → List Char
  | .char c => quotedChar quote c
  | .half offset => shortEscape (CodePoint.half offset).number

def quotedText (text : Text) : Text :=
  let quote := quoteFor text
  ofChars (quote :: text.flatMap (quotedPoint quote) ++ [quote])

def quotedByte (quote : Char) (byte : UInt8) : List Char :=
  (commonEscape? quote (Char.ofNat byte.toNat)).getD <|
    if 0x20 ≤ byte.toNat ∧ byte.toNat < 0x7f then [Char.ofNat byte.toNat]
    else '\\' :: 'x' :: hexDigits 2 byte.toNat

def quotedBytes (bytes : List UInt8) : Text :=
  let quote := quoteFor (bytes.map fun byte => .char (Char.ofNat byte.toNat))
  ofChars ('b' :: quote :: bytes.flatMap (quotedByte quote) ++ [quote])

end Stubwright.Text
